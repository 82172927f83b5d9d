/-
# Identities of resources

The identity of a resource is the digest of its scope and its id with a slash between them.
Neither of the two is kept free of slashes, so that resources with different scopes and ids may
have one identity. A resource whose access has a locator is scoped by it unless a URL with an
authority comes first.
-/

import DataSluice.Lib.Joined
import DataSluice.Lib.Utf8
import DataSluice.Sync.AtomicOnError

namespace DataSluice.Sync.Identity

open DataSluice.Lib DataSluice.Lib.Url DataSluice.Sync.Materialize

/-! ## Scopes -/

/-- The local path or the object URI of a resource. -/
def locator (resource : Resource) : Option String :=
  truthy (orElse (resource.access.bind Access.uri) (resource.access.bind Access.path))

/-- The URL that comes before the locator. -/
def accessUrl (resource : Resource) : Option String :=
  truthy (orElse (resource.access.bind Access.url) resource.url)

section Scopes

variable {Schema Batch : Type} (tools : Tools Schema Batch)

/-- The resource has a URL with a scheme and an authority. -/
def IsUrlScoped (resource : Resource) : Prop :=
  ∃ url parts, accessUrl resource = some url ∧
    urlsplit tools.stdlib.unicode url.toList = .ok parts ∧ parts.scheme ≠ [] ∧ parts.netloc ≠ []

/-- A resource that has a locator and no URL with an authority is scoped by the locator. -/
theorem urlOrigin_of_locator {resource : Resource} {scope path : String}
    (hscope : urlOrigin tools resource = .ok scope) (hurl : ¬ IsUrlScoped tools resource)
    (hlocator : locator resource = some path) : scope = "local:" ++ path := by
  rw [locator] at hlocator
  rw [urlOrigin, hlocator] at hscope
  cases haccess : accessUrl resource with
  | none =>
      rw [accessUrl] at haccess
      simp only [haccess, Except.ok.injEq] at hscope
      exact hscope.symm
  | some url =>
      have haccess' := haccess
      rw [accessUrl] at haccess'
      simp only [haccess'] at hscope
      split at hscope
      · cases hscope
      · next parts hparts =>
          rw [if_neg fun hboth => hurl ⟨url, parts, haccess, hparts, hboth⟩] at hscope
          simp only [Except.ok.injEq] at hscope
          exact hscope.symm

/-- The text of an identity, which is hashed. -/
def identityText (scope : String) (resource : Resource) : String := scope ++ "/" ++ resource.id

theorem canonicalIdentity_eq_ok_iff (resource : Resource) (identity : String) :
    canonicalIdentity tools resource = .ok identity ↔
      ∃ scope, urlOrigin tools resource = .ok scope ∧
        identity = tools.sha256 (identityText scope resource).toUTF8.toList := by
  rw [canonicalIdentity]
  cases urlOrigin tools resource with
  | error error => simp
  | ok scope => simp [identityText, eq_comm]

end Scopes

/-! ## Joined texts -/

/-- The scope of one resource and a slash start the scope of the other one, and the rest of that
scope and a slash start the id of the first one. -/
def Overlaps (scope other : String) (resource another : Resource) : Prop :=
  ∃ between : String, other = scope ++ "/" ++ between ∧
    resource.id = between ++ "/" ++ another.id

/-- Two identities are digests of one text when the scopes and the ids are the same, or one of
the scopes goes on in the id of the other resource. -/
theorem identityText_eq_iff (scope other : String) (resource another : Resource) :
    identityText scope resource = identityText other another ↔
      (scope = other ∧ resource.id = another.id) ∨ Overlaps scope other resource another ∨
        Overlaps other scope another resource := by
  have htext : identityText scope resource = identityText other another ↔
      scope.toList ++ (['/'] ++ resource.id.toList) =
        other.toList ++ (['/'] ++ another.id.toList) := by
    rw [← String.toList_inj]
    simp [identityText]
  have hoverlaps : ∀ (scope other : String) (resource another : Resource),
      Overlaps scope other resource another ↔
        ∃ between, other.toList = scope.toList ++ (['/'] ++ between) ∧
          resource.id.toList = between ++ (['/'] ++ another.id.toList) := by
    intro scope other resource another
    constructor
    · intro ⟨between, hother, hid⟩
      exact ⟨between.toList, by simp [hother], by simp [hid]⟩
    · intro ⟨between, hother, hid⟩
      refine ⟨String.ofList between, ?_, ?_⟩
      · rw [← String.toList_inj, hother]
        simp
      · rw [← String.toList_inj, hid]
        simp
  rw [htext, append_word_eq_iff (apart_singleton '/' _), hoverlaps, hoverlaps,
    String.toList_inj, String.toList_inj]

/-! ## Separation -/

section Separation

variable {Schema Batch : Type} (tools : Tools Schema Batch)

/-- Two resources that have one identity have one id, one scope, and no two locators. -/
def Separates (resource another : Resource) : Prop :=
  ∀ identity, canonicalIdentity tools resource = .ok identity →
    canonicalIdentity tools another = .ok identity →
    resource.id = another.id ∧ urlOrigin tools resource = urlOrigin tools another ∧
      ∀ path other, locator resource = some path → locator another = some other → path = other

/-- Two resources of one id and one scope have locators that are not in the scope, since a URL
comes before the locator of one of them. -/
def HidesLocators (resource another : Resource) : Prop :=
  resource.id = another.id ∧ urlOrigin tools resource = urlOrigin tools another ∧
    (IsUrlScoped tools resource ∨ IsUrlScoped tools another) ∧
    ∃ path other, locator resource = some path ∧ locator another = some other ∧ path ≠ other

/-- The digest tells the identity texts of two resources apart. -/
def NoCollision (resource another : Resource) : Prop :=
  ∀ scope other, urlOrigin tools resource = .ok scope → urlOrigin tools another = .ok other →
    tools.sha256 (identityText scope resource).toUTF8.toList =
      tools.sha256 (identityText other another).toUTF8.toList →
    (identityText scope resource).toUTF8.toList = (identityText other another).toUTF8.toList

/-- The identities of two resources with scopes are equal when their texts are. -/
theorem canonicalIdentity_eq_iff {resource another : Resource}
    (hcollision : NoCollision tools resource another) {scope other : String}
    (hscope : urlOrigin tools resource = .ok scope)
    (hother : urlOrigin tools another = .ok other) :
    (∃ identity, canonicalIdentity tools resource = .ok identity ∧
        canonicalIdentity tools another = .ok identity) ↔
      identityText scope resource = identityText other another := by
  constructor
  · intro ⟨identity, hresource, hanother⟩
    obtain ⟨_, hown, rfl⟩ := (canonicalIdentity_eq_ok_iff tools resource identity).mp hresource
    obtain ⟨_, hsecond, hdigest⟩ := (canonicalIdentity_eq_ok_iff tools another _).mp hanother
    cases hscope.symm.trans hown
    cases hother.symm.trans hsecond
    exact Utf8.toUTF8_toList_injective (hcollision _ _ hscope hother hdigest)
  · intro htext
    refine ⟨tools.sha256 (identityText scope resource).toUTF8.toList, ?_, ?_⟩
    · rw [canonicalIdentity_eq_ok_iff]
      exact ⟨scope, hscope, rfl⟩
    · rw [canonicalIdentity_eq_ok_iff]
      exact ⟨other, hother, by rw [htext]⟩

/-- The id of a resource is longer than the id of the other one where a scope goes on in it. -/
theorem Overlaps.id_ne {scope other : String} {resource another : Resource}
    (hoverlaps : Overlaps scope other resource another) : resource.id ≠ another.id := by
  obtain ⟨between, -, hid⟩ := hoverlaps
  intro hsame
  have hlength := congrArg String.length (hsame.symm.trans hid)
  simp only [String.length_append] at hlength
  have hslash : "/".length = 1 := rfl
  omega

/-- Identities separate two resources exactly when neither scope goes on in the id of the other
resource, and no URL hides two locators. -/
theorem canonicalIdentity_separates_iff (resource another : Resource)
    (hcollision : NoCollision tools resource another) :
    Separates tools resource another ↔
      ∀ scope other, urlOrigin tools resource = .ok scope → urlOrigin tools another = .ok other →
        ¬ Overlaps scope other resource another ∧ ¬ Overlaps other scope another resource ∧
          ¬ HidesLocators tools resource another := by
  constructor
  · intro hseparates scope other hscope hother
    have hsame : identityText scope resource = identityText other another →
        resource.id = another.id ∧ urlOrigin tools resource = urlOrigin tools another ∧
          ∀ path other, locator resource = some path → locator another = some other →
            path = other := by
      intro htext
      obtain ⟨identity, hresource, hanother⟩ :=
        (canonicalIdentity_eq_iff tools hcollision hscope hother).mpr htext
      exact hseparates identity hresource hanother
    rw [identityText_eq_iff] at hsame
    refine ⟨?_, ?_, ?_⟩
    · intro hoverlaps
      exact hoverlaps.id_ne (hsame (.inr (.inl hoverlaps))).1
    · intro hoverlaps
      exact hoverlaps.id_ne (hsame (.inr (.inr hoverlaps))).1.symm
    · intro ⟨hid, horigin, _, path, second, hpath, hsecond, hne⟩
      have hscopes : scope = other := by
        rw [hscope, hother] at horigin
        exact Except.ok.inj horigin
      exact hne ((hsame (.inl ⟨hscopes, hid⟩)).2.2 path second hpath hsecond)
  · intro hclear identity hresource hanother
    obtain ⟨scope, hscope, -⟩ := (canonicalIdentity_eq_ok_iff tools resource _).mp hresource
    obtain ⟨other, hother, -⟩ := (canonicalIdentity_eq_ok_iff tools another _).mp hanother
    obtain ⟨hfirst, hsecond, hlocators⟩ := hclear scope other hscope hother
    have htext := (canonicalIdentity_eq_iff tools hcollision hscope hother).mp
      ⟨identity, hresource, hanother⟩
    rw [identityText_eq_iff] at htext
    obtain ⟨rfl, hid⟩ := htext.resolve_right (not_or.mpr ⟨hfirst, hsecond⟩)
    have horigin := hscope.trans hother.symm
    refine ⟨hid, horigin, ?_⟩
    intro path second hpath hanotherPath
    by_contra hne
    by_cases hurl : IsUrlScoped tools resource ∨ IsUrlScoped tools another
    · exact hlocators ⟨hid, horigin, hurl, path, second, hpath, hanotherPath, hne⟩
    · rw [not_or] at hurl
      have hlocal := (urlOrigin_of_locator tools hscope hurl.1 hpath).symm.trans
        (urlOrigin_of_locator tools hother hurl.2 hanotherPath)
      exact hne (by simpa using hlocal)

end Separation

/-! ## Local files -/

/-- Tools with the digests of the identities of three local files. -/
def pathTools : Tools Unit Unit :=
  { queryTools with
    sha256 := fun bytes =>
      if bytes = "local:/a/r".toUTF8.toList then
        "a388ef633041531db4af6910070202e7bbd921d389c82a8074bca812783642fd"
      else if bytes = "local:/b/r".toUTF8.toList then
        "0adfd764c9fd7862fe42d8283be7b70ee8b2bb6773f4b6cd62d954f4d79b441e"
      else "173ea1ec22276404ee1c17ded71aab15d6fc7414b509ac8592a89f53e06c5eb2"
    sha256_valid := by
      intro bytes
      split
      · decide
      · split
        · decide
        · decide }

/-- A local file. -/
def localResource (path id : String) : Resource := ⟨id, none, none, none, some (.localFile path)⟩

/-- Files with one name in two directories. -/
theorem canonicalIdentity_separates_directories :
    NoCollision pathTools (localResource "/a" "r") (localResource "/b" "r") ∧
      Separates pathTools (localResource "/a" "r") (localResource "/b" "r") := by
  have hcollision : NoCollision pathTools (localResource "/a" "r") (localResource "/b" "r") := by
    intro scope other hscope hother hdigest
    cases hscope
    cases hother
    revert hdigest
    decide +kernel
  refine ⟨hcollision, ?_⟩
  apply (canonicalIdentity_separates_iff pathTools _ _ hcollision).mpr
  intro scope other hscope hother
  cases hscope
  cases hother
  refine ⟨?_, ?_, ?_⟩
  · intro hoverlaps
    exact hoverlaps.id_ne rfl
  · intro hoverlaps
    exact hoverlaps.id_ne rfl
  · intro ⟨_, horigin, _⟩
    revert horigin
    decide

/-- The file `/a` with the id `b/c` and the file `/a/b` with the id `c`. -/
theorem canonicalIdentity_local_files_share :
    canonicalIdentity pathTools (localResource "/a" "b/c") =
        .ok "173ea1ec22276404ee1c17ded71aab15d6fc7414b509ac8592a89f53e06c5eb2" ∧
      canonicalIdentity pathTools (localResource "/a/b" "c") =
        .ok "173ea1ec22276404ee1c17ded71aab15d6fc7414b509ac8592a89f53e06c5eb2" ∧
      ¬ Separates pathTools (localResource "/a" "b/c") (localResource "/a/b" "c") := by
  have hfirst : canonicalIdentity pathTools (localResource "/a" "b/c") =
      .ok "173ea1ec22276404ee1c17ded71aab15d6fc7414b509ac8592a89f53e06c5eb2" := by
    rw [canonicalIdentity_eq_ok_iff]
    exact ⟨"local:/a", rfl, by decide +kernel⟩
  have hsecond : canonicalIdentity pathTools (localResource "/a/b" "c") =
      .ok "173ea1ec22276404ee1c17ded71aab15d6fc7414b509ac8592a89f53e06c5eb2" := by
    rw [canonicalIdentity_eq_ok_iff]
    exact ⟨"local:/a/b", rfl, by decide +kernel⟩
  refine ⟨hfirst, hsecond, ?_⟩
  intro hseparates
  have hid := (hseparates _ hfirst hsecond).1
  revert hid
  decide

end DataSluice.Sync.Identity
