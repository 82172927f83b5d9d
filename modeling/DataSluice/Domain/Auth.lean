/-
# Scopes of credentials

A scope names the identity of a credential in the keys of circuits and of evidence. It is a
keyed digest of the names and the values of its fields, one behind the other, so that two
credentials share a scope when their fields read the same without the borders between them.
-/

import DataSluice.Lib.Joined
import DataSluice.Lib.Utf8

namespace DataSluice.Domain.Auth

open DataSluice.Lib

/-! ## Credentials -/

/-- `SecretValue` -/
structure SecretValue where
  reveal : String
  nonempty : reveal ≠ ""

structure CKANCredential where
  apiToken : SecretValue

structure UDataCredential where
  apiKey : SecretValue

/-- The user name and the password are supplied together. -/
structure SocrataCredential where
  appToken : SecretValue
  username : Option String
  password : Option SecretValue
  username_nonempty : username ≠ some ""
  together : username.isNone = password.isNone

/-- `CatalogCredential` -/
inductive CatalogCredential
  | ckan (credential : CKANCredential)
  | udata (credential : UDataCredential)
  | socrata (credential : SocrataCredential)

namespace CatalogCredential

/-- `type(credential).__name__.lower()` -/
def typeName : CatalogCredential → String
  | ckan _ => "ckancredential"
  | udata _ => "udatacredential"
  | socrata _ => "socratacredential"

/-- The names of the fields with what is digested of their values: a secret is revealed, and
any other value is made a text, `None` too. -/
def fields : CatalogCredential → List (String × String)
  | ckan credential => [("api_token", credential.apiToken.reveal)]
  | udata credential => [("api_key", credential.apiKey.reveal)]
  | socrata credential =>
      [("app_token", credential.appToken.reveal),
        ("username", credential.username.getD "None"),
        ("password", (credential.password.map SecretValue.reveal).getD "None")]

/-- What the digest is updated with. -/
def digested (credential : CatalogCredential) : List UInt8 :=
  credential.fields.flatMap fun field => field.1.toUTF8.toList ++ field.2.toUTF8.toList

end CatalogCredential

/-- `credential_scope`, where `digest` is the keyed digest, cut to sixteen digits. -/
def credentialScope (digest : List UInt8 → String) : Option CatalogCredential → String
  | none => "anonymous"
  | some credential => credential.typeName ++ "-" ++ digest credential.digested

/-! ## Texts -/

/-- The fields as one text. -/
def CatalogCredential.text (credential : CatalogCredential) : String :=
  credential.fields.foldr (fun field rest => field.1 ++ field.2 ++ rest) ""

theorem digested_eq (credential : CatalogCredential) :
    credential.digested = credential.text.toUTF8.toList := by
  rw [CatalogCredential.digested, CatalogCredential.text]
  induction credential.fields with
  | nil =>
      show ([] : List UInt8) = "".toUTF8.toList
      rw [Utf8.byteArray_toList_eq]
      rfl
  | cons field fields ih =>
      rw [List.flatMap_cons, ih, List.foldr_cons, Utf8.toUTF8_toList_append,
        Utf8.toUTF8_toList_append]

namespace SocrataCredential

variable (credential : SocrataCredential)

/-- What is digested of the user name. -/
def usernameText : String := credential.username.getD "None"

/-- What is digested of the password. -/
def passwordText : String := (credential.password.map SecretValue.reveal).getD "None"

theorem usernameText_ne_empty : credential.usernameText ≠ "" := by
  rw [usernameText]
  cases hname : credential.username with
  | none => decide
  | some name =>
      have hvalid := credential.username_nonempty
      rw [hname] at hvalid
      exact fun hempty => hvalid (congrArg some hempty)

theorem passwordText_ne_empty : credential.passwordText ≠ "" := by
  rw [passwordText]
  cases credential.password with
  | none => decide
  | some password => exact password.nonempty

theorem text_toList :
    (CatalogCredential.socrata credential).text.toList =
      "app_token".toList ++ joinedTwice "username".toList "password".toList
        credential.appToken.reveal.toList credential.usernameText.toList
        credential.passwordText.toList := by
  simp [CatalogCredential.text, CatalogCredential.fields, joinedTwice, usernameText, passwordText]

end SocrataCredential

/-! ## Scopes of their own -/

/-- No other credential of its type has the scope of a credential. -/
def HasOwnScope (digest : List UInt8 → String) (credential : CatalogCredential) : Prop :=
  ∀ other : CatalogCredential, other.typeName = credential.typeName →
    credentialScope digest (some other) = credentialScope digest (some credential) →
    other = credential

/-- The borders between the fields can be read off their text: a Socrata credential has a user
name and a password, not both of them `None`, and the names of the two fields do not occur where
another credential could have its borders. -/
def HasClearFields : CatalogCredential → Prop
  | .ckan _ => True
  | .udata _ => True
  | .socrata credential =>
      ∃ username password, credential.username = some username ∧
        credential.password = some password ∧
        ¬(username = "None" ∧ password.reveal = "None") ∧
        IsRigid "username".toList "password".toList credential.appToken.reveal.toList
          username.toList password.reveal.toList

/-- Credentials of one type share a scope when they have one text. -/
theorem credentialScope_eq_iff {digest : List UInt8 → String} {credential : CatalogCredential}
    (hdigest : ∀ bytes, digest bytes = digest credential.digested → bytes = credential.digested)
    {other : CatalogCredential} (htype : other.typeName = credential.typeName) :
    credentialScope digest (some other) = credentialScope digest (some credential) ↔
      other.text = credential.text := by
  rw [credentialScope, credentialScope, htype]
  constructor
  · intro hscope
    have hsame : digest other.digested = digest credential.digested := by simpa using hscope
    have hbytes := hdigest _ hsame
    rw [digested_eq, digested_eq] at hbytes
    exact Utf8.toUTF8_toList_injective hbytes
  · intro htext
    rw [digested_eq, digested_eq, htext]

theorem apart_username_password :
    Apart "username".toList "username".toList ∧ Apart "password".toList "password".toList ∧
      Apart "username".toList "password".toList ∧ Apart "password".toList "username".toList := by
  decide

/-- The texts of the fields of a credential are rigid when no texts of other fields make up the
same text. -/
theorem isRigid_fields_iff (credential : SocrataCredential) :
    IsRigid "username".toList "password".toList credential.appToken.reveal.toList
        credential.usernameText.toList credential.passwordText.toList ↔
      ∀ other : SocrataCredential, (CatalogCredential.socrata other).text =
        (CatalogCredential.socrata credential).text →
        other.appToken = credential.appToken ∧ other.usernameText = credential.usernameText ∧
          other.passwordText = credential.passwordText := by
  obtain ⟨husername, hpassword, hapart, hswapped⟩ := apart_username_password
  have hne : ∀ {text : String}, text ≠ "" → text.toList ≠ [] := by
    intro text htext hempty
    exact htext (String.toList_eq_nil_iff.mp hempty)
  have hlength : "username".toList.length = "password".toList.length := by decide
  have hwords : "username".toList ≠ "password".toList := by decide
  rw [isRigid_iff husername hpassword hapart hswapped hlength hwords
    (hne credential.appToken.nonempty) (hne credential.usernameText_ne_empty)
    (hne credential.passwordText_ne_empty)]
  constructor
  · intro hunique other htext
    have hlists := congrArg String.toList htext
    rw [SocrataCredential.text_toList, SocrataCredential.text_toList] at hlists
    obtain ⟨htoken, hname, hsecret⟩ := hunique _ _ _ (hne other.appToken.nonempty)
      (hne other.usernameText_ne_empty) (hne other.passwordText_ne_empty)
      (List.append_cancel_left hlists).symm
    refine ⟨?_, (String.toList_injective hname).symm, (String.toList_injective hsecret).symm⟩
    have hreveal := String.toList_injective htoken
    cases htoken' : other.appToken
    cases hown : credential.appToken
    simp_all
  · intro hunique token name secret htoken hname hsecret htext
    have hofList : ∀ {text : List Char}, text ≠ [] → String.ofList text ≠ "" := by
      intro text hnonempty hempty
      apply hnonempty
      rw [← String.toList_ofList (l := text), hempty]
      rfl
    obtain ⟨happ, hfirst, hsecond⟩ := hunique
      ⟨⟨String.ofList token, hofList htoken⟩, some (String.ofList name),
        some ⟨String.ofList secret, hofList hsecret⟩, by simpa using hofList hname, rfl⟩ (by
          rw [← String.toList_inj, SocrataCredential.text_toList, SocrataCredential.text_toList,
            htext]
          simp [SocrataCredential.usernameText, SocrataCredential.passwordText])
    refine ⟨?_, ?_, ?_⟩
    · rw [← happ]
      simp
    · rw [← hfirst]
      simp [SocrataCredential.usernameText]
    · rw [← hsecond]
      simp [SocrataCredential.passwordText]

/-- A Socrata credential that shares its text with no other one has a user name and a password,
which are not both `None`. -/
theorem exists_account_of_text_eq {credential : SocrataCredential}
    (hown : ∀ other : SocrataCredential, (CatalogCredential.socrata other).text =
      (CatalogCredential.socrata credential).text → other = credential) :
    ∃ username password, credential.username = some username ∧
      credential.password = some password ∧ ¬(username = "None" ∧ password.reveal = "None") := by
  have htogether := credential.together
  cases hname : credential.username with
  | none =>
      cases hsecret : credential.password with
      | some password =>
          rw [hname, hsecret] at htogether
          cases htogether
      | none =>
          have hother := hown ⟨credential.appToken, some "None", some ⟨"None", by decide⟩,
            by decide, rfl⟩ (by
              simp [CatalogCredential.text, CatalogCredential.fields, hname, hsecret])
          have hboth := (congrArg SocrataCredential.username hother).trans hname
          cases hboth
  | some username =>
      cases hsecret : credential.password with
      | none =>
          rw [hname, hsecret] at htogether
          cases htogether
      | some password =>
          refine ⟨username, password, rfl, rfl, ?_⟩
          intro ⟨husername, hpassword⟩
          have hother := hown ⟨credential.appToken, none, none, by decide, rfl⟩ (by
            simp [CatalogCredential.text, CatalogCredential.fields, hname, hsecret, husername,
              hpassword])
          have hboth := (congrArg SocrataCredential.username hother).trans hname
          cases hboth

/-- A Socrata credential has a scope of its own exactly when its fields are clear. -/
theorem socrata_text_unique_iff (credential : SocrataCredential) :
    (∀ other : SocrataCredential, (CatalogCredential.socrata other).text =
        (CatalogCredential.socrata credential).text → other = credential) ↔
      HasClearFields (.socrata credential) := by
  constructor
  · intro hown
    obtain ⟨username, password, hname, hsecret, hnone⟩ := exists_account_of_text_eq hown
    refine ⟨username, password, hname, hsecret, hnone, ?_⟩
    have hrigid := (isRigid_fields_iff credential).mpr (by
      intro other htext
      rw [hown other htext]
      exact ⟨rfl, rfl, rfl⟩)
    simpa [SocrataCredential.usernameText, SocrataCredential.passwordText, hname, hsecret]
      using hrigid
  · intro ⟨username, password, hname, hsecret, hnone, hrigid⟩ other htext
    have husername : credential.usernameText = username := by
      rw [SocrataCredential.usernameText, hname]
      rfl
    have hpassword : credential.passwordText = password.reveal := by
      rw [SocrataCredential.passwordText, hsecret]
      rfl
    rw [← husername, ← hpassword, isRigid_fields_iff] at hrigid
    obtain ⟨htoken, hfirst, hsecond⟩ := hrigid other htext
    rw [husername] at hfirst
    rw [hpassword] at hsecond
    obtain ⟨token, otherName, otherSecret, hvalid, htogether⟩ := other
    obtain ⟨ownToken, ownName, ownSecret, _, _⟩ := credential
    cases otherName with
    | none =>
        cases otherSecret with
        | none => exact (hnone ⟨hfirst.symm, hsecond.symm⟩).elim
        | some _ => cases htogether
    | some otherName =>
        cases otherSecret with
        | none => cases htogether
        | some otherSecret =>
            have hsame : otherSecret = password := by
              cases otherSecret
              cases password
              simpa [SocrataCredential.passwordText] using hsecond
            simp only [SocrataCredential.usernameText, Option.getD_some] at hfirst
            simp only at htoken hname hsecret
            subst htoken hfirst hsame
            simp only [hname, hsecret]

/-- A credential has a scope of its own among those of its type exactly when its fields are
clear. -/
theorem hasOwnScope_iff (digest : List UInt8 → String) (credential : CatalogCredential)
    (hdigest : ∀ bytes, digest bytes = digest credential.digested →
      bytes = credential.digested) :
    HasOwnScope digest credential ↔ HasClearFields credential := by
  have hscope : HasOwnScope digest credential ↔ ∀ other : CatalogCredential,
      other.typeName = credential.typeName → other.text = credential.text →
      other = credential := by
    constructor
    · intro hown other htype htext
      exact hown other htype ((credentialScope_eq_iff hdigest htype).mpr htext)
    · intro hown other htype hsame
      exact hown other htype ((credentialScope_eq_iff hdigest htype).mp hsame)
  rw [hscope]
  cases credential with
  | ckan credential =>
      constructor
      · intro _
        trivial
      · intro _ other htype htext
        cases other with
        | udata other => simp [CatalogCredential.typeName] at htype
        | socrata other => simp [CatalogCredential.typeName] at htype
        | ckan other =>
            obtain ⟨⟨token, _⟩⟩ := other
            obtain ⟨⟨own, _⟩⟩ := credential
            simpa [CatalogCredential.text, CatalogCredential.fields] using htext
  | udata credential =>
      constructor
      · intro _
        trivial
      · intro _ other htype htext
        cases other with
        | ckan other => simp [CatalogCredential.typeName] at htype
        | socrata other => simp [CatalogCredential.typeName] at htype
        | udata other =>
            obtain ⟨⟨key, _⟩⟩ := other
            obtain ⟨⟨own, _⟩⟩ := credential
            simpa [CatalogCredential.text, CatalogCredential.fields] using htext
  | socrata credential =>
      rw [← socrata_text_unique_iff]
      constructor
      · intro hown other htext
        exact CatalogCredential.socrata.inj (hown (.socrata other) rfl htext)
      · intro hown other htype htext
        cases other with
        | ckan other => simp [CatalogCredential.typeName] at htype
        | udata other => simp [CatalogCredential.typeName] at htype
        | socrata other => rw [hown other htext]

/-- A Socrata credential with an account. -/
def accountCredential (token username password : String) (htoken : token ≠ "")
    (husername : username ≠ "") (hpassword : password ≠ "") : CatalogCredential :=
  .socrata ⟨⟨token, htoken⟩, some username, some ⟨password, hpassword⟩,
    fun h => husername (Option.some.inj h), rfl⟩

/-- A digest without collisions: every byte is a character. -/
def byteDigest (bytes : List UInt8) : String :=
  String.ofList (bytes.map Char.ofUInt8)

theorem byteDigest_injective {bytes others : List UInt8}
    (hdigest : byteDigest bytes = byteDigest others) : bytes = others := by
  have hchars := String.ofList_injective hdigest
  apply List.map_injective_iff.mpr _ hchars
  intro byte other hchar
  have hvalue : byte.toUInt32.toNat = other.toUInt32.toNat := congrArg Char.toNat hchar
  rw [UInt8.toNat_toUInt32, UInt8.toNat_toUInt32] at hvalue
  exact UInt8.toNat_inj.mp hvalue

/-- An account whose fields are clear. -/
theorem hasOwnScope_account :
    HasOwnScope byteDigest
      (accountCredential "token" "alice" "secret" (by decide) (by decide) (by decide)) := by
  rw [hasOwnScope_iff byteDigest _ fun bytes hdigest => byteDigest_injective hdigest]
  exact ⟨"alice", ⟨"secret", by decide⟩, rfl, rfl, by decide,
    isRigid_of_length_lt (by decide) (by decide) (by decide) (by decide)⟩

/-- Two accounts whose passwords start at another occurrence of the name of the field, and a
token with an account that is named like no account. -/
theorem credentialScope_shared :
    credentialScope byteDigest (some (accountCredential "token" "alice" "xpasswordy" (by decide)
        (by decide) (by decide))) =
      credentialScope byteDigest (some (accountCredential "token" "alicepasswordx" "y" (by decide)
        (by decide) (by decide))) ∧
    accountCredential "token" "alice" "xpasswordy" (by decide) (by decide) (by decide) ≠
      accountCredential "token" "alicepasswordx" "y" (by decide) (by decide) (by decide) ∧
    credentialScope byteDigest (some (accountCredential "token" "None" "None" (by decide)
        (by decide) (by decide))) =
      credentialScope byteDigest (some (.socrata ⟨⟨"token", by decide⟩, none, none, by decide,
        rfl⟩)) := by
  have htext : ∀ credential other : CatalogCredential, credential.typeName = other.typeName →
      credential.text = other.text →
      credentialScope byteDigest (some credential) = credentialScope byteDigest (some other) := by
    intro credential other htype htext
    have hdigested : credential.digested = other.digested := by
      rw [digested_eq, digested_eq, htext]
    rw [credentialScope, credentialScope, htype, hdigested]
  refine ⟨htext _ _ rfl (by decide), ?_, htext _ _ rfl (by decide)⟩
  intro hsame
  have hnames := congrArg CatalogCredential.fields hsame
  revert hnames
  decide

end DataSluice.Domain.Auth
