/-
# Content-addressed files

A directory whose files are named by a digest of what they hold. A file is written under the
digest of its own bytes or it is removed, so whatever stands under a name has that name as its
digest; where the digest is injective, a name decides the bytes.
-/

import Mathlib.Logic.Function.Basic

namespace DataSluice.Lib

/-- Files, each of them named by the digest of its bytes. -/
structure ContentFiles {Data Digest : Type} (digest : Data → Digest) where
  file : Digest → Option Data
  named : ∀ name, ∀ data ∈ file name, digest data = name

namespace ContentFiles

variable {Data Digest : Type} [DecidableEq Digest] {digest : Data → Digest}

/-- A directory without files. -/
def empty : ContentFiles digest where
  file _ := none
  named _ _ h := by cases h

/-- Write a file under its digest. -/
def publish (files : ContentFiles digest) (data : Data) : ContentFiles digest where
  file := Function.update files.file (digest data) (some data)
  named := by
    intro name found hfound
    by_cases hname : name = digest data
    · subst hname
      rw [Function.update_self, Option.mem_def, Option.some.injEq] at hfound
      rw [hfound]
    · rw [Function.update_of_ne hname] at hfound
      exact files.named name found hfound

/-- Remove a file, if it is there. -/
def remove (files : ContentFiles digest) (name : Digest) : ContentFiles digest where
  file := Function.update files.file name none
  named := by
    intro other found hfound
    by_cases hname : other = name
    · rw [hname, Function.update_self] at hfound
      cases hfound
    · rw [Function.update_of_ne hname] at hfound
      exact files.named other found hfound

@[simp] theorem publish_self (files : ContentFiles digest) (data : Data) :
    (files.publish data).file (digest data) = some data := Function.update_self _ _ _

theorem publish_of_ne (files : ContentFiles digest) {data : Data} {name : Digest}
    (hne : name ≠ digest data) : (files.publish data).file name = files.file name :=
  Function.update_of_ne hne _ _

@[simp] theorem remove_self (files : ContentFiles digest) (name : Digest) :
    (files.remove name).file name = none := Function.update_self _ _ _

theorem remove_of_ne (files : ContentFiles digest) {name other : Digest} (hne : other ≠ name) :
    (files.remove name).file other = files.file other := Function.update_of_ne hne _ _

/-- Writing a file takes none away. -/
theorem isSome_publish (files : ContentFiles digest) (data : Data) {name : Digest}
    (hfile : (files.file name).isSome = true) : ((files.publish data).file name).isSome = true := by
  by_cases hname : name = digest data
  · rw [hname, publish_self]
    rfl
  · rw [publish_of_ne files hname]
    exact hfile

/-- Writing a file leaves the bytes under every name that was in use, when the digest is
injective. -/
theorem publish_of_file (hinjective : Function.Injective digest) (files : ContentFiles digest)
    (data : Data) {name : Digest} {found : Data} (hfile : files.file name = some found) :
    (files.publish data).file name = some found := by
  by_cases hname : name = digest data
  · have hsame : found = data := hinjective ((files.named name found hfile).trans hname)
    rw [hname, publish_self, hsame]
  · rw [publish_of_ne files hname]
    exact hfile

end ContentFiles

end DataSluice.Lib
