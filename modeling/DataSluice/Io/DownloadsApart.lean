/-
# Downloads that keep apart

When every download of `download_many` succeeds, each resource was served once and written once,
under the name that is made for it. So the paths are told apart just when the names are, and a
path holds what its own resource was served just when no later resource with other bytes was
written to the same file.
-/

import Mathlib.Data.List.Nodup
import DataSluice.Io.Downloads

namespace DataSluice.Io.Downloads

open DataSluice.Lib DataSluice.Lib.Url DataSluice.Domain

variable {Error Place : Type} [DecidableEq Place] (places : Path → Place)

/-! ## The last write decides -/

section Standing

variable {places}

/-- A file that something was written to holds one of the writes to it. -/
theorem exists_standing {place : Place} {all : List (Path × Option Bytes)}
    (h : ∃ write ∈ all, places write.1 = place) :
    ∃ write ∈ all, places write.1 = place ∧ standing places place all = write.2 := by
  induction all with
  | nil => simp at h
  | cons write rest ih =>
      rw [standing]
      by_cases hlater : ∃ later ∈ rest, places later.1 = place
      · obtain ⟨last, hmem, hplace, hstanding⟩ := ih hlater
        rw [if_pos (by simpa using hlater)]
        exact ⟨last, List.mem_cons_of_mem _ hmem, hplace, hstanding⟩
      · have hwrite : places write.1 = place := by
          obtain ⟨found, hfound, hplace⟩ := h
          rcases List.mem_cons.mp hfound with heq | hmem
          · rw [← heq]
            exact hplace
          · exact absurd ⟨found, hmem, hplace⟩ hlater
        rw [if_neg (by simpa using hlater), if_pos hwrite]
        exact ⟨write, List.mem_cons_self, hwrite, rfl⟩

end Standing

/-- Two files that do not get in each other's way: their names differ, and where the names lead
to one file the bytes are the same. -/
def Apart (one other : Text × Bytes) : Prop :=
  one.1 ≠ other.1 ∧
    (places (.inside one.1) = places (.inside other.1) → one.2 = other.2)

instance (one other : Text × Bytes) : Decidable (Apart places one other) :=
  inferInstanceAs (Decidable (_ ∧ _))

/-- The writes of these files, in order. -/
def writesOf (files : List (Text × Bytes)) : List (Path × Option Bytes) :=
  files.map fun file => (.inside file.1, some file.2)

/-- Of files that are written one after the other, each has a name of its own and holds its own
bytes in the end, just when they do not get in each other's way. -/
theorem standing_writesOf_iff (files : List (Text × Bytes)) :
    ((files.map Prod.fst).Nodup ∧ ∀ file ∈ files,
        standing places (places (.inside file.1)) (writesOf files) = some file.2) ↔
      files.Pairwise (Apart places) := by
  unfold Apart
  rw [List.pairwise_and_iff, List.Nodup, List.pairwise_map]
  refine and_congr_right fun _ => ⟨fun hholds => ?_, fun hsame file hfile => ?_⟩
  · refine List.pairwise_of_forall_mem_list fun one hone other hother hplace => ?_
    have hboth : some one.2 = some other.2 := by
      calc some one.2
        _ = standing places (places (.inside one.1)) (writesOf files) := (hholds one hone).symm
        _ = standing places (places (.inside other.1)) (writesOf files) := by rw [hplace]
        _ = some other.2 := hholds other hother
    exact Option.some.inj hboth
  · have hsymm : Std.Symm fun one other : Text × Bytes =>
        places (.inside one.1) = places (.inside other.1) → one.2 = other.2 :=
      ⟨fun _ _ h heq => (h heq.symm).symm⟩
    have hagree := hsame.forall_of_forall fun _ _ _ => rfl
    have hwritten : ∃ write ∈ writesOf files, places write.1 = places (.inside file.1) :=
      ⟨(.inside file.1, some file.2), List.mem_map_of_mem hfile, rfl⟩
    obtain ⟨write, hwrite, hplace, hstanding⟩ := exists_standing hwritten
    obtain ⟨last, hlast, rfl⟩ := List.mem_map.mp hwrite
    rw [hstanding, hagree hfile hlast hplace.symm]

/-! ## What a download writes and is served -/

/-- So much was written and served. -/
def Reached (wrote : List (Path × Option Bytes)) (given : List Bytes)
    (world : DownloadWorld Error) : Prop :=
  writes world.history = wrote ∧ served world.history = given

section Runs

variable {environment : Environment (DownloadOp.Answer Error)} {downloader : Downloader}
  {wrote : List (Path × Option Bytes)} {given : List Bytes}

open Effect Downloader

theorem ends_call (op : DownloadOp) :
    Ends (Reached wrote given) (call environment op)
      (fun reply => Reached (wrote ++ (written (⟨op, .ok reply⟩ :
          Happening (DownloadOp.Answer Error))).toList)
        (given ++ (servedBy (⟨op, .ok reply⟩ : Happening (DownloadOp.Answer Error))).toList))
      fun _ _ => True := by
  refine Ends.mapError (Ends.ask (fun world reply h => ?_) fun _ _ _ => trivial)
  constructor
  · rw [writes, List.filterMap_append, ← writes, h.1]
    cases hwritten : written (⟨op, .ok reply⟩ : Happening (DownloadOp.Answer Error)) <;>
      simp [hwritten]
  · rw [served, List.filterMap_append, ← served, h.2]
    cases hserved : servedBy (⟨op, .ok reply⟩ : Happening (DownloadOp.Answer Error)) <;>
      simp [hserved]

/-- A call that neither writes nor serves. -/
theorem ends_call_quiet (op : DownloadOp)
    (hquiet : ∀ reply, written (⟨op, .ok reply⟩ : Happening (DownloadOp.Answer Error)) = none ∧
      servedBy (⟨op, .ok reply⟩ : Happening (DownloadOp.Answer Error)) = none) :
    Ends (Reached wrote given) (call environment op) (fun _ => Reached wrote given)
      fun _ _ => True := by
  refine (ends_call op).weaken (fun _ h => h) (fun reply world h => ?_) fun _ _ h => h
  rw [(hquiet reply).1, (hquiet reply).2] at h
  simpa using h

/-- A call that does not write or serve when it raises either. -/
theorem ends_call_silent (op : DownloadOp)
    (hquiet : ∀ answer, written (⟨op, answer⟩ : Happening (DownloadOp.Answer Error)) = none ∧
      servedBy (⟨op, answer⟩ : Happening (DownloadOp.Answer Error)) = none) :
    Ends (Reached wrote given) (call environment op) (fun _ => Reached wrote given)
      fun _ => Reached wrote given := by
  have hreached : ∀ (world : DownloadWorld Error) answer, Reached wrote given world →
      Reached wrote given { world with history := world.history ++ [⟨op, answer⟩] } := by
    intro world answer h
    constructor
    · rw [writes, List.filterMap_append, ← writes, h.1]
      simp [(hquiet answer).1]
    · rw [served, List.filterMap_append, ← served, h.2]
      simp [(hquiet answer).2]
  exact Ends.mapError (Ends.ask (fun world _ h => hreached world _ h) fun world _ h =>
    hreached world _ h)

theorem ends_send (url : Text) :
    Ends (Reached wrote given) (downloader.send environment url)
      (fun response world => if response.isSuccess then
        Reached wrote (given ++ [response.payload]) world else Reached wrote given world)
      fun _ _ => True := by
  refine Ends.tryExcept ((ends_call (.send url)).weaken (fun _ h => h) (fun response world h => ?_)
    fun _ _ h => h) fun error => ?_
  · have hserved : servedBy (⟨.send url, .ok response⟩ : Happening (DownloadOp.Answer Error)) =
        if response.isSuccess then some response.payload else none := rfl
    have hwritten : written (⟨.send url, .ok response⟩ : Happening (DownloadOp.Answer Error)) =
        none := rfl
    rw [hserved, hwritten] at h
    split
    · next hsuccess => simpa [hsuccess] using h
    · next hother => simpa [hother] using h
  · split <;> exact Ends.raise fun _ h => h

theorem ends_fetch (url : Text) :
    Ends (Reached wrote given) (downloader.fetch environment url)
      (fun data => Reached wrote (given ++ [data])) fun _ _ => True := by
  refine Ends.bind (R := fun response => Reached wrote (given ++ [response.payload])) ?_
    fun response => Ends.pure fun _ h => h
  have hdiscard : ∀ response, Ends (Reached wrote given)
      ((downloader.following environment).discard response) (fun _ => Reached wrote given)
      fun _ _ => True := by
    intro response
    show Ends (Reached wrote given) (pure ()) _ _
    exact Ends.pure fun _ h => h
  exact Following.ends_followFrom (ends_call_quiet .lookup fun _ => ⟨rfl, rfl⟩) ends_send
    hdiscard (fun _ _ _ => trivial) (fun _ _ => trivial) _ url

theorem ends_evict (url : Text) (isCached : Bool) :
    Ends (Reached wrote given) (downloader.evict environment url isCached)
      (fun _ => Reached wrote given) fun _ _ => True :=
  Ends.ite (fun _ => ends_call_quiet _ fun _ => ⟨rfl, rfl⟩) fun _ => Ends.pure fun _ h => h

theorem ends_verifyChecksum (url : Text) (data : Bytes) (expected algorithm : Text)
    (isCached : Bool) :
    Ends (Reached wrote given)
      (downloader.verifyChecksum environment url data expected algorithm isCached)
      (fun _ => Reached wrote given) fun _ _ => True := by
  refine Ends.bind (ends_call_quiet _ fun _ => ⟨rfl, rfl⟩) fun actual => ?_
  refine Ends.ite (fun _ => Ends.pure fun _ h => h) fun _ => ?_
  exact Ends.bind (ends_evict url isCached) fun _ => Ends.raise fun _ _ => trivial

theorem ends_cached (url : Text) :
    Ends (Reached wrote given) (downloader.cached environment url)
      (fun cached => Reached wrote (given ++ cached.toList)) fun _ _ => True := by
  refine Ends.ite (fun _ => ?_) fun _ => Ends.pure fun _ h => ?_
  · refine (ends_call (.cacheGet url)).weaken (fun _ h => h) (fun cached world h => ?_)
      fun _ _ h => h
    have hwritten : written (⟨.cacheGet url, .ok cached⟩ : Happening (DownloadOp.Answer Error)) =
        none := rfl
    rw [hwritten, Option.toList_none, List.append_nil] at h
    exact h
  · rw [Option.toList_none, List.append_nil]
    exact h

theorem ends_data (url : Text) (cached : Option Bytes) :
    Ends (Reached wrote (given ++ cached.toList)) (downloader.data environment url cached)
      (fun data => Reached wrote (given ++ [data])) fun _ _ => True := by
  cases cached with
  | some data => exact Ends.pure fun _ h => h
  | none =>
      rw [Option.toList_none, List.append_nil]
      exact ends_fetch url

theorem ends_obtain (url : Text) (verifyHash : Option Text) (hashAlgorithm : Text) :
    Ends (Reached wrote given) (downloader.obtain environment url verifyHash hashAlgorithm)
      (fun data => Reached wrote (given ++ [data])) fun _ _ => True := by
  refine Ends.bind (ends_cached url) fun cached => ?_
  refine Ends.bind (ends_data url cached) fun data => ?_
  refine Ends.bind (R := fun _ => Reached wrote (given ++ [data])) ?_ fun _ => ?_
  · exact Ends.ite (fun _ => Ends.pure fun _ h => h) fun _ => ends_verifyChecksum url data _ _ _
  refine Ends.bind (R := fun _ => Reached wrote (given ++ [data])) ?_ fun _ => ?_
  · exact Ends.ite (fun _ => ends_call_quiet _ fun _ => ⟨rfl, rfl⟩) fun _ => Ends.pure fun _ h => h
  · exact Ends.pure fun _ h => h

theorem ends_writeFile (path : Path) (data : Bytes) :
    Ends (Reached wrote given) (writeFile environment path data)
      (fun returned world => returned = path ∧ Reached (wrote ++ [(path, some data)]) given world)
      fun _ _ => True := by
  refine Ends.tryExcept (F := fun _ _ => True) ?_ fun error => ?_
  · refine Ends.bind (R := fun _ => Reached (wrote ++ [(path, some data)]) given) ?_ fun _ => ?_
    · refine (ends_call (.writeBytes path data)).weaken (fun _ h => h) (fun reply world h => ?_)
        fun _ _ h => h
      rwa [show servedBy (⟨.writeBytes path data, .ok reply⟩ :
        Happening (DownloadOp.Answer Error)) = none from rfl, Option.toList_none,
        List.append_nil] at h
    · refine Ends.bind (ends_call_quiet _ fun _ => ⟨rfl, rfl⟩) fun _ => ?_
      exact Ends.pure fun _ h => ⟨rfl, h⟩
  · split <;> exact Ends.raise fun _ h => h

/-- The name that a resource of `download_many` is given. -/
def nameOf (downloader : Downloader) (resource : Resource) : Text :=
  fileName downloader.isAlnum none resource

theorem ends_saveBytes (data : Bytes) (name : Text) :
    Ends (Reached wrote given) (saveBytes environment data .directory (some name))
      (fun path world => path = .inside name ∧
        Reached (wrote ++ [(path, some data)]) given world) fun _ _ => True := by
  unfold saveBytes
  refine Ends.ite (fun _ => ?_) fun hother => absurd (Or.inl rfl) hother
  refine Ends.bind (ends_call_quiet _ fun _ => ⟨rfl, rfl⟩) fun _ => ?_
  refine Ends.ite (fun _ => Ends.raise fun _ _ => trivial) fun _ => ?_
  refine (ends_writeFile (.inside name) data).weaken (fun _ h => h) (fun path world h => ?_)
    fun _ _ h => h
  rw [h.1]
  exact ⟨rfl, h.2⟩

/-- A download that succeeds is served once and writes once. -/
theorem ends_downloadOne (resource : Resource) :
    Ends (Reached wrote given) (downloader.downloadOne environment resource)
      (fun path world => ∀ found ∈ path, found = .inside (nameOf downloader resource) ∧
        ∃ data, Reached (wrote ++ [(found, some data)]) (given ++ [data]) world)
      fun _ _ => True := by
  refine Ends.tryExcept (F := fun _ _ => True) ?_ fun error => ?_
  · refine Ends.bind (R := fun path world => path = .inside (nameOf downloader resource) ∧
      ∃ data, Reached (wrote ++ [(path, some data)]) (given ++ [data]) world) ?_ fun path => ?_
    · refine Ends.ite (fun _ => Ends.raise fun _ _ => trivial) fun _ => ?_
      refine Ends.bind (ends_obtain _ none _) fun data => ?_
      exact (ends_saveBytes data _).weaken (fun _ h => h) (fun path world h => ⟨h.1, data, h.2⟩)
        fun _ _ h => h
    · refine Ends.pure fun world h found hfound => ?_
      cases hfound
      exact h
  · exact Ends.ite (fun _ => Ends.pure fun _ _ _ h => by cases h) fun _ =>
      Ends.raise fun _ _ => trivial

/-- The files of a run in which every download succeeded. -/
structure AllSaved (downloader : Downloader) (resources : List Resource) (paths : List Path)
    (data : List Bytes) : Prop where
  served : data.length = resources.length
  paths : paths = (resources.map (nameOf downloader)).map .inside

/-- A resource brings one path at most, and where every one brings its path, every one was served
and written in its turn. -/
theorem ends_downloadAll (resources : List Resource) :
    Ends (Reached wrote given) (downloader.downloadAll environment resources)
      (fun paths world => paths.length ≤ resources.length ∧
        (paths.length = resources.length → ∃ data, AllSaved downloader resources paths data ∧
          Reached (wrote ++ paths.zip (data.map some)) (given ++ data) world))
      fun _ _ => True := by
  induction resources generalizing wrote given with
  | nil =>
      refine Ends.pure fun world h => ⟨le_rfl, fun _ => ⟨[], ⟨rfl, rfl⟩, ?_⟩⟩
      simpa using h
  | cons resource resources ih =>
      refine Ends.bind (ends_downloadOne resource) fun path => ?_
      cases path with
      | none =>
          refine Ends.bind (R := fun paths _ => paths.length ≤ resources.length) ?_ fun paths => ?_
          · intro world _
            have hreached : Reached (writes world.history) (served world.history) world :=
              ⟨rfl, rfl⟩
            have hrun := ih world hreached
            exact ⟨fun paths target h => (hrun.1 paths target h).1, fun _ _ _ => trivial⟩
          · refine Ends.pure fun world h => ⟨Nat.le_succ_of_le h, fun hall => ?_⟩
            exact absurd hall (Nat.ne_of_lt (Nat.lt_succ_of_le h))
      | some path =>
          intro world h
          obtain ⟨rfl, first, hfirst⟩ := h path rfl
          refine Ends.bind ih (fun paths => ?_) world hfirst
          refine Ends.pure fun world h => ⟨Nat.succ_le_succ h.1, fun hall => ?_⟩
          obtain ⟨data, hsaved, hreached⟩ := h.2 (Nat.succ.inj hall)
          refine ⟨first :: data, ⟨congrArg Nat.succ hsaved.served, ?_⟩, ?_⟩
          · rw [hsaved.paths]
            rfl
          · rw [List.append_assoc, List.append_assoc] at hreached
            exact hreached

theorem ends_downloadMany (resources : List Resource) :
    Ends (Reached wrote given) (downloader.downloadMany environment resources)
      (fun paths world => paths.length = resources.length → ∃ data,
        AllSaved downloader resources paths data ∧
          Reached (wrote ++ paths.zip (data.map some)) (given ++ data) world)
      fun _ _ => True := by
  refine Ends.bind (ends_call_quiet _ fun _ => ⟨rfl, rfl⟩) fun _ => ?_
  exact (ends_downloadAll resources).weaken (fun _ h => h) (fun _ _ h => h.2) fun _ _ h => h

/-! ## The manifest -/

variable {places}

/-- A size that was taken is that of what stands there. -/
def Sized (places : Path → Place) (wrote : List (Path × Option Bytes)) (path : Path)
    (size : Option Nat) : Prop :=
  ∀ length ∈ size, (standing places (places path) wrote).map List.length = some length

theorem ends_statSize (path : Path) :
    Ends (Reached wrote given) (statSize places environment path)
      (fun size world => Sized places wrote path size ∧ Reached wrote given world)
      fun _ _ => True := by
  refine Ends.tryExcept (F := fun _ => Reached wrote given) ?_ fun error => ?_
  · refine Ends.bind (ends_call_silent (.stat path) fun _ => ⟨rfl, rfl⟩) fun _ => ?_
    refine Ends.bind Ends.get fun world => ?_
    refine Ends.pure fun state h => ⟨fun length hlength => ?_, h.2⟩
    rw [h.1, h.2.1] at hlength
    exact hlength
  · split
    · exact Ends.pure fun _ h => ⟨fun _ hsize => absurd hsize (Option.not_mem_none _), h⟩
    · exact Ends.raise fun _ _ => trivial

theorem ends_manifestEntries (pairs : List (Resource × Path)) :
    Ends (Reached wrote given) (manifestEntries places environment pairs)
      (fun entries world => entries.map ManifestEntry.resourceId = (pairs.map Prod.fst).map Resource.id ∧
        entries.map ManifestEntry.path = pairs.map Prod.snd ∧
        (∀ entry ∈ entries, Sized places wrote entry.path entry.size) ∧
        Reached wrote given world)
      fun _ _ => True := by
  induction pairs with
  | nil => exact Ends.pure fun _ h => ⟨rfl, rfl, fun _ hmem => absurd hmem List.not_mem_nil, h⟩
  | cons pair pairs ih =>
      refine Ends.bind (ends_statSize pair.2) fun size => ?_
      refine Ends.assume (fun _ h => h.1) fun hsize => ?_
      refine Ends.bind (ih.weaken (fun _ h => h.2) (fun _ _ h => h) fun _ _ h => h) fun entries => ?_
      refine Ends.pure fun world h => ⟨?_, ?_, ?_, h.2.2.2⟩
      · rw [List.map_cons, h.1, List.map_cons, List.map_cons]
      · rw [List.map_cons, h.2.1, List.map_cons]
      · exact List.forall_mem_cons.mpr ⟨hsize, h.2.2.1⟩

/-! ## Resources apart -/

/-- The manifest describes the resources after a run: each was served once, no two paths are the
same, and each path holds what its own resource was served, of which it has the size. -/
structure Describes (places : Path → Place) (resources : List Resource)
    (entries : List ManifestEntry) (history : DownloadHistory Error) : Prop where
  served_once : (served history).length = resources.length
  listed : entries.map ManifestEntry.resourceId = resources.map Resource.id
  apart : (entries.map ManifestEntry.path).Nodup
  holds : ∀ pair ∈ entries.zip (served history),
    standing places (places pair.1.path) (writes history) = some pair.2 ∧
      ∀ size ∈ pair.1.size, size = pair.2.length

/-- What is known after a run that gave a manifest. -/
theorem manifest_spec {resources : List Resource} {entries : List ManifestEntry}
    {target : DownloadWorld Error}
    (hrun : manifest places downloader environment resources ⟨[], ()⟩ = (.ok entries, target)) :
    (served target.history).length = resources.length ∧
      entries.map ManifestEntry.resourceId = resources.map Resource.id ∧
      entries.map ManifestEntry.path =
        (resources.map (nameOf downloader)).map Path.inside ∧
      writes target.history =
        writesOf ((resources.map (nameOf downloader)).zip (served target.history)) ∧
      ∀ entry ∈ entries, Sized places (writes target.history) entry.path entry.size := by
  have hends : Ends (Reached [] []) (manifest places downloader environment resources)
      (fun entries world => ∃ data, data.length = resources.length ∧
        entries.map ManifestEntry.resourceId = resources.map Resource.id ∧
        entries.map ManifestEntry.path = (resources.map (nameOf downloader)).map Path.inside ∧
        (∀ entry ∈ entries, Sized places
          (writesOf ((resources.map (nameOf downloader)).zip data)) entry.path entry.size) ∧
        Reached (writesOf ((resources.map (nameOf downloader)).zip data)) data world)
      fun _ _ => True := by
    refine Ends.bind (ends_downloadMany resources) fun paths => ?_
    refine Ends.ite (fun _ => Ends.raise fun _ _ => trivial) fun hlength => ?_
    intro world h
    obtain ⟨data, hsaved, hreached⟩ := h (not_not.mp hlength)
    have hlengths : (resources.zip paths).map Prod.fst = resources :=
      List.map_fst_zip (not_not.mp hlength).ge
    have hwrites : [] ++ paths.zip (data.map some) =
        writesOf ((resources.map (nameOf downloader)).zip data) := by
      rw [hsaved.paths, List.nil_append, List.zip_map]
      rfl
    rw [hwrites, List.nil_append] at hreached
    refine ((ends_manifestEntries (resources.zip paths)).weaken (fun _ h => h)
      (fun entries world h => ?_) fun _ _ h => h) world hreached
    refine ⟨data, hsaved.served, ?_, ?_, h.2.2.1, h.2.2.2⟩
    · rw [h.1, hlengths]
    · rw [h.2.1, List.map_snd_zip (not_not.mp hlength).le, hsaved.paths]
  obtain ⟨data, hserved, hids, hpaths, hsizes, hreached⟩ :=
    (hends ⟨[], ()⟩ ⟨rfl, rfl⟩).1 entries target hrun
  rw [hreached.1, hreached.2]
  exact ⟨hserved, hids, hpaths, rfl, hsizes⟩

/-- When every download succeeds, the manifest describes the resources just when their files do
not get in each other's way: the names that are made for them are told apart, and resources whose
names lead to one file were served the same bytes. -/
theorem manifest_describes_iff {resources : List Resource} {entries : List ManifestEntry}
    {target : DownloadWorld Error}
    (hrun : manifest places downloader environment resources ⟨[], ()⟩ = (.ok entries, target)) :
    Describes places resources entries target.history ↔
      ((resources.map (nameOf downloader)).zip (served target.history)).Pairwise
        (Apart places) := by
  obtain ⟨hserved, hids, hpaths, hwrites, hsizes⟩ := manifest_spec hrun
  have hnames : ((resources.map (nameOf downloader)).zip (served target.history)).map Prod.fst =
      resources.map (nameOf downloader) :=
    List.map_fst_zip (by rw [List.length_map, hserved])
  have hpairs : (entries.zip (served target.history)).map (Prod.map ManifestEntry.path id) =
      ((resources.map (nameOf downloader)).zip (served target.history)).map
        (Prod.map Path.inside id) := by
    rw [← List.zip_map, ← List.zip_map, hpaths]
  have hinjective : Function.Injective Path.inside := fun _ _ h => Path.inside.inj h
  have hsize : ∀ pair ∈ entries.zip (served target.history),
      standing places (places pair.1.path) (writes target.history) = some pair.2 →
        ∀ size ∈ pair.1.size, size = pair.2.length := by
    intro pair hpair hstanding size hsize
    have htaken := hsizes pair.1 (List.of_mem_zip hpair).1 size hsize
    rw [hstanding] at htaken
    exact (Option.some.inj htaken).symm
  rw [← standing_writesOf_iff, hnames, ← hwrites]
  constructor
  · intro hdescribes
    refine ⟨?_, fun file hfile => ?_⟩
    · have hapart := hdescribes.apart
      rw [hpaths] at hapart
      exact (List.nodup_map_iff hinjective).mp hapart
    · have hmem : Prod.map Path.inside id file ∈ _ := List.mem_map_of_mem hfile
      rw [← hpairs] at hmem
      obtain ⟨pair, hpair, heq⟩ := List.mem_map.mp hmem
      have hholds := (hdescribes.holds pair hpair).1
      rw [show pair.1.path = .inside file.1 from congrArg Prod.fst heq,
        show pair.2 = file.2 from congrArg Prod.snd heq] at hholds
      exact hholds
  · rintro ⟨hnodup, hholds⟩
    refine ⟨hserved, hids, ?_, fun pair hpair => ?_⟩
    · rw [hpaths]
      exact (List.nodup_map_iff hinjective).mpr hnodup
    · have hmem : Prod.map ManifestEntry.path id pair ∈ _ := List.mem_map_of_mem hpair
      rw [hpairs] at hmem
      obtain ⟨file, hfile, heq⟩ := List.mem_map.mp hmem
      have hstanding := hholds file hfile
      rw [show Path.inside file.1 = pair.1.path from congrArg Prod.fst heq,
        show file.2 = pair.2 from congrArg Prod.snd heq] at hstanding
      exact ⟨hstanding, hsize pair hpair hstanding⟩

end Runs

/-! ## Two runs -/

/-- ASCII tables, no storage and no cache. -/
def plainDownloader : Downloader where
  unicode := .ascii
  addresses := ⟨fun _ => none, fun _ => none⟩
  isAlnum character := isLetter character || isDigit character
  hasStorage := false
  hasCache := false
  allowPrivateHttp := false

/-- Every call succeeds, and a URL answers with itself. -/
def echoing : Environment (DownloadOp.Answer Unit)
  | _, .lookup => .ok fun _ => none
  | _, .send url => .ok ⟨200, [], url.map fun character => character.toNat.toUInt8⟩
  | _, .cacheGet _ => .ok none
  | _, .digest _ _ | _, .store _ _ => .ok []
  | _, .cachePut _ _ | _, .cacheDelete _ | _, .makeDirectory _ | _, .writeBytes _ _ | _, .chmod _
  | _, .stat _ => .ok ()

theorem run_of_toOption {Error α : Type} {result : Except (Failure Error) α × DownloadWorld Error}
    {value : α} (h : result.1.toOption = some value) : result = (.ok value, result.2) := by
  obtain ⟨outcome, target⟩ := result
  cases outcome with
  | error error => cases h
  | ok found => rw [Option.some.inj h]

/-- Two resources with names of their own. -/
def named : List Resource :=
  [⟨"1".toList, some "one".toList, some "http://a.example/1".toList⟩,
    ⟨"2".toList, some "two".toList, some "http://a.example/2".toList⟩]

theorem named_described : ∃ entries target,
    manifest id plainDownloader echoing named ⟨[], ()⟩ = (.ok entries, target) ∧
      Describes id named entries target.history := by
  have hrun : (manifest id plainDownloader echoing named ⟨[], ()⟩).1.toOption =
      some [⟨"1".toList, .inside "one".toList, some 18⟩,
        ⟨"2".toList, .inside "two".toList, some 18⟩] := by
    decide +kernel
  have hmanifest := run_of_toOption hrun
  exact ⟨_, _, hmanifest, (manifest_describes_iff hmanifest).mpr (by decide +kernel)⟩

/-- Two resources of which the names differ in a character that is left out. -/
def slashed : List Resource :=
  [⟨"1".toList, some "data".toList, some "http://a.example/1".toList⟩,
    ⟨"2".toList, some "da/ta".toList, some "http://a.example/2".toList⟩]

/-- Their downloads succeed, and the manifest names one file for both. -/
theorem slashed_not_described : (slashed.map Resource.id).Nodup ∧ ∃ entries target,
    manifest id plainDownloader echoing slashed ⟨[], ()⟩ = (.ok entries, target) ∧
      ¬ Describes id slashed entries target.history := by
  have hrun : (manifest id plainDownloader echoing slashed ⟨[], ()⟩).1.toOption =
      some [⟨"1".toList, .inside "data".toList, some 18⟩,
        ⟨"2".toList, .inside "data".toList, some 18⟩] := by
    decide +kernel
  refine ⟨by decide, _, _, run_of_toOption hrun, fun hdescribes => ?_⟩
  exact absurd hdescribes.apart (by decide)

end DataSluice.Io.Downloads
