/-
# Checked downloads

Where a digest is expected, bytes go to a file, a storage or the cache only after their own
digest was found to be the expected one. Bytes with another digest go nowhere, and a cached copy
that has become such bytes is deleted.
-/

import DataSluice.Io.Downloads

namespace DataSluice.Io.Downloads

open DataSluice.Lib DataSluice.Lib.Url DataSluice.Domain

variable {Error : Type}

/-! ## What a history shows -/

/-- The bytes that a call keeps somewhere. -/
def DownloadOp.keeps : DownloadOp → Option Bytes
  | .cachePut _ data | .store data _ | .writeBytes _ data => some data
  | _ => none

/-- The digest of these bytes is in the history, and it is the expected one. -/
def Matches (unicode : UnicodeData) (expected algorithm : Text) (history : DownloadHistory Error)
    (data : Bytes) : Prop :=
  ∃ actual, (⟨.digest algorithm data, .ok actual⟩ : Happening (DownloadOp.Answer Error)) ∈ history ∧
    unicode.lower actual = unicode.lower expected

/-- Bytes are kept only behind the digest that lets them. -/
def Verified (unicode : UnicodeData) (expected algorithm : Text)
    (history : DownloadHistory Error) : Prop :=
  ∀ front happening rest, history = front ++ happening :: rest →
    ∀ data ∈ happening.1.keeps, Matches unicode expected algorithm front data

/-- Nothing was kept. -/
def Unkept (history : DownloadHistory Error) : Prop :=
  ∀ happening ∈ history, happening.1.keeps = none

/-- The cache gave a copy for this key. -/
def GaveCopy (key : Text) (history : DownloadHistory Error) : Prop :=
  ∃ data, (⟨.cacheGet key, .ok (some data)⟩ : Happening (DownloadOp.Answer Error)) ∈ history

section Histories

variable {unicode : UnicodeData} {expected algorithm : Text} {history : DownloadHistory Error}

/-- Where nothing was kept there is nothing to be verified. -/
theorem Unkept.verified (hunkept : Unkept history) : Verified unicode expected algorithm history := by
  intro front happening rest heq data hdata
  have hmem : happening ∈ history := by
    rw [heq]
    exact List.mem_append_right _ List.mem_cons_self
  rw [hunkept happening hmem] at hdata
  cases hdata

/-- A call that keeps no bytes leaves it so. -/
theorem Unkept.append (hunkept : Unkept history)
    {happening : Happening (DownloadOp.Answer Error)} (hquiet : happening.1.keeps = none) :
    Unkept (history ++ [happening]) := by
  intro other hother
  rcases List.mem_append.mp hother with hold | hnew
  · exact hunkept other hold
  · rw [List.mem_singleton.mp hnew]
    exact hquiet

/-- A history stays verified when the bytes that its next call keeps match the checksum. -/
theorem Verified.append (hverified : Verified unicode expected algorithm history)
    {happening : Happening (DownloadOp.Answer Error)}
    (hkeeps : ∀ data ∈ happening.1.keeps, Matches unicode expected algorithm history data) :
    Verified unicode expected algorithm (history ++ [happening]) := by
  intro front other rest heq data hdata
  rcases List.eq_nil_or_concat rest with rfl | ⟨before, last, rfl⟩
  · obtain ⟨hhistory, hhappening⟩ := List.append_inj' heq rfl
    rw [← hhistory]
    rw [← (List.cons.inj hhappening).1] at hdata
    exact hkeeps data hdata
  · have hlast : history ++ [happening] = (front ++ other :: before) ++ [last] := by
      rw [heq, List.concat_eq_append, List.append_assoc, List.cons_append]
    exact hverified front other before (List.append_inj' hlast rfl).1 data hdata

/-- Bytes that were checked once match from there on, since the history only grows. -/
theorem Matches.append {data : Bytes} (hmatches : Matches unicode expected algorithm history data)
    (happening : Happening (DownloadOp.Answer Error)) :
    Matches unicode expected algorithm (history ++ [happening]) data := by
  obtain ⟨actual, hmem, hactual⟩ := hmatches
  exact ⟨actual, List.mem_append_left _ hmem, hactual⟩

end Histories

/-! ## What a download keeps -/

section Runs

open Effect Downloader

variable {environment : Environment (DownloadOp.Answer Error)} {downloader : Downloader}
  {url expected algorithm : Text} {isCached : Bool} {data : Bytes}

/-- Nothing was kept, and a copy was given only where that is known. -/
structure Fetched (downloader : Downloader) (url : Text) (isCached : Bool)
    (world : DownloadWorld Error) : Prop where
  unkept : Unkept world.history
  known : GaveCopy url world.history → isCached = true
  cache : isCached = true → downloader.hasCache = true

/-- The bytes may be kept, and what was kept before might be. -/
structure Vouched (downloader : Downloader) (expected algorithm : Text) (data : Bytes)
    (world : DownloadWorld Error) : Prop where
  verified : Verified downloader.unicode expected algorithm world.history
  matched : Matches downloader.unicode expected algorithm world.history data

/-- How a download may fail: a checksum error leaves nothing kept, and a copy that was given
deleted. -/
structure Failed (downloader : Downloader) (url expected algorithm : Text) (error : Failure Error)
    (world : DownloadWorld Error) : Prop where
  verified : Verified downloader.unicode expected algorithm world.history
  settled : ∀ shown wanted actual, error = .checksumMismatch shown wanted actual →
    Unkept world.history ∧ (GaveCopy url world.history →
      ∃ front, world.history = front ++ [⟨.cacheDelete url, .ok ()⟩])

/-- Another failure before anything was kept. -/
theorem Fetched.failed {world : DownloadWorld Error} {error : Failure Error}
    (hfetched : Fetched downloader url isCached world)
    (herror : ∀ shown wanted actual, error ≠ .checksumMismatch shown wanted actual) :
    Failed downloader url expected algorithm error world :=
  ⟨hfetched.unkept.verified, fun _ _ _ heq => absurd heq (herror _ _ _)⟩

/-- Another failure behind the check. -/
theorem Vouched.failed {world : DownloadWorld Error} {error : Failure Error}
    (hvouched : Vouched downloader expected algorithm data world)
    (herror : ∀ shown wanted actual, error ≠ .checksumMismatch shown wanted actual) :
    Failed downloader url expected algorithm error world :=
  ⟨hvouched.verified, fun _ _ _ heq => absurd heq (herror _ _ _)⟩

/-! ### Before the check -/

/-- The exception is one of a call, and this still holds. -/
def RaisedIn (P : DownloadWorld Error → Prop) (error : Failure Error)
    (world : DownloadWorld Error) : Prop :=
  (∃ raised, error = .raised raised) ∧ P world

/-- A call that keeps nothing and asks for no copy. -/
theorem ends_call_fetched (op : DownloadOp) (hkeeps : op.keeps = none)
    (hget : ∀ key, op ≠ .cacheGet key) :
    Ends (Fetched downloader url isCached) (call environment op)
      (fun _ => Fetched downloader url isCached) (RaisedIn (Fetched downloader url isCached)) := by
  have hfetched : ∀ (world : DownloadWorld Error) answer,
      Fetched downloader url isCached world → Fetched downloader url isCached
        { world with history := world.history ++ [⟨op, answer⟩] } := by
    intro world answer h
    refine ⟨h.unkept.append hkeeps, fun hgave => h.known ?_, h.cache⟩
    obtain ⟨copy, hmem⟩ := hgave
    rcases List.mem_append.mp hmem with hold | hnew
    · exact ⟨copy, hold⟩
    · exact absurd (congrArg Sigma.fst (List.mem_singleton.mp hnew)).symm (hget url)
  exact Ends.mapError (Ends.ask (fun world _ h => hfetched world _ h) fun world error h =>
    ⟨⟨error, rfl⟩, hfetched world _ h⟩)

/-- An exception of a call is no checksum error, so only what was kept is asked about behind it. -/
theorem RaisedIn.failed {error : Failure Error} {world : DownloadWorld Error}
    (h : RaisedIn (Fetched downloader url isCached) error world) :
    Failed downloader url expected algorithm error world := by
  obtain ⟨⟨raised, rfl⟩, hfetched⟩ := h
  exact hfetched.failed fun _ _ _ h => by cases h

/-- Fetching a source keeps nothing, neither when it returns nor when it raises. -/
theorem ends_fetch_fetched (source : Text) :
    Ends (Fetched downloader url isCached) (downloader.fetch environment source)
      (fun _ => Fetched downloader url isCached)
      (Failed downloader url expected algorithm) := by
  refine Ends.bind (R := fun _ => Fetched downloader url isCached) ?_ fun _ =>
    Ends.pure fun _ h => h
  refine Following.ends_followFrom ?_ (fun hop => ?_) (fun response => ?_)
    (fun fault _ h => h.failed fun _ _ _ h => by cases h)
    (fun _ h => h.failed fun _ _ _ h => by cases h) _ source
  · exact (ends_call_fetched .lookup rfl fun _ h => by cases h).weaken (fun _ h => h)
      (fun _ _ h => h) fun _ _ h => h.failed
  · refine Ends.tryExcept ((ends_call_fetched (.send hop) rfl fun _ h => by cases h).weaken
      (fun _ h => h) (fun response world h => ?_) fun _ _ h => h) fun error => ?_
    · split <;> exact h
    · split
      · exact Ends.raise fun _ h => h.2.failed fun _ _ _ h => by cases h
      · exact Ends.raise fun _ h => h.failed
  · show Ends (Fetched downloader url isCached) (pure ()) _ _
    exact Ends.pure fun _ h => h

/-- Looking into the cache keeps nothing, and it is known afterwards whether a copy was given. -/
theorem ends_cached_fetched :
    Ends (fun world : DownloadWorld Error => world.history = [])
      (downloader.cached environment url)
      (fun cached => Fetched downloader url cached.isSome)
      (Failed downloader url expected algorithm) := by
  refine Ends.ite (fun hcache => ?_) fun _ => Ends.pure fun world h => ?_
  · refine Ends.mapError (Ends.ask (fun world cached h => ⟨?_, fun hgave => ?_, fun _ => hcache⟩)
      fun world error h => ⟨?_, fun _ _ _ h => by cases h⟩)
    · rw [h]
      exact fun happening hmem => by rw [List.mem_singleton.mp hmem]; rfl
    · rw [h] at hgave
      obtain ⟨copy, hmem⟩ := hgave
      have hcopy := List.mem_singleton.mp hmem
      cases hcopy
      rfl
    · rw [h]
      exact Unkept.verified fun happening hmem => by rw [List.mem_singleton.mp hmem]; rfl
  · refine ⟨?_, fun hgave => ?_, fun h => by cases h⟩
    · rw [h]
      exact fun _ hmem => absurd hmem List.not_mem_nil
    · rw [h] at hgave
      obtain ⟨copy, hmem⟩ := hgave
      cases hmem

/-! ### The check -/

/-- Behind the check the bytes are vouched for. Where it fails, a copy of the cache is deleted
first, so that no later download is given it. -/
theorem ends_verifyChecksum_matched (first : Char) (rest : Text) :
    Ends (Fetched downloader url isCached)
      (downloader.checked environment url data (some (first :: rest)) algorithm isCached)
      (fun _ => Vouched downloader (first :: rest) algorithm data)
      (Failed downloader url (first :: rest) algorithm) := by
  refine Ends.ite (fun hempty => absurd hempty (List.cons_ne_nil _ _)) fun _ => ?_
  refine Ends.bind (R := fun actual world => Fetched downloader url isCached world ∧
    (downloader.unicode.lower actual = downloader.unicode.lower (first :: rest) →
      Matches downloader.unicode (first :: rest) algorithm world.history data)) ?_ fun actual => ?_
  · have hmatches : Ends (Fetched downloader url isCached)
        (call environment (.digest algorithm data))
        (fun actual world =>
          downloader.unicode.lower actual = downloader.unicode.lower (first :: rest) →
            Matches downloader.unicode (first :: rest) algorithm world.history data)
        fun _ _ => True := by
      refine Ends.mapError (Ends.ask (fun world actual _ hactual => ?_) fun _ _ _ => trivial)
      exact ⟨actual, List.mem_append_right _ List.mem_cons_self, hactual⟩
    exact ((ends_call_fetched (.digest algorithm data) rfl fun _ h => by cases h).and
      hmatches).weaken (fun _ h => h) (fun _ _ h => h) fun _ _ h => h.1.failed
  · refine Ends.ite (fun hequal => Ends.pure fun _ h => ⟨h.1.unkept.verified, h.2 hequal⟩)
      fun _ => ?_
    refine Ends.bind (R := fun _ world => Unkept world.history ∧ (GaveCopy url world.history →
      ∃ front, world.history = front ++ [⟨.cacheDelete url, .ok ()⟩])) ?_ fun _ =>
      Ends.raise fun _ h => ⟨h.1.verified, fun _ _ _ _ => h⟩
    refine Ends.ite (fun _ => ?_) fun hother => Ends.pure fun world h =>
      ⟨h.1.unkept, fun hgave => ?_⟩
    · have hkeeps : (DownloadOp.cacheDelete url).keeps = none := rfl
      exact Ends.mapError (Ends.ask
        (fun world _ h => ⟨h.1.unkept.append hkeeps, fun _ => ⟨world.history, rfl⟩⟩)
        fun world _ h => ⟨(h.1.unkept.append hkeeps).verified, fun _ _ _ h => by cases h⟩)
    · have hcached := h.1.known hgave
      exact absurd (Bool.and_eq_true_iff.mpr ⟨h.1.cache hcached, hcached⟩) hother

/-! ### Behind the check -/

/-- A call that keeps nothing but these bytes. -/
theorem ends_call_vouched (op : DownloadOp) (hkeeps : ∀ kept ∈ op.keeps, kept = data) :
    Ends (Vouched downloader expected algorithm data) (call environment op)
      (fun _ => Vouched downloader expected algorithm data)
      (RaisedIn (Vouched downloader expected algorithm data)) := by
  have hvouched : ∀ (world : DownloadWorld Error) answer,
      Vouched downloader expected algorithm data world → Vouched downloader expected algorithm data
        { world with history := world.history ++ [⟨op, answer⟩] } := by
    intro world answer h
    refine ⟨h.verified.append fun kept hkept => ?_, h.matched.append _⟩
    rw [hkeeps kept hkept]
    exact h.matched
  exact Ends.mapError (Ends.ask (fun world _ h => hvouched world _ h) fun world error h =>
    ⟨⟨error, rfl⟩, hvouched world _ h⟩)

theorem RaisedIn.failed_vouched {error : Failure Error} {world : DownloadWorld Error}
    (h : RaisedIn (Vouched downloader expected algorithm data) error world) :
    Failed downloader url expected algorithm error world := by
  obtain ⟨⟨raised, rfl⟩, hvouched⟩ := h
  exact hvouched.failed fun _ _ _ h => by cases h

/-- A call behind the check, as the download sees it. -/
theorem ends_call_kept (op : DownloadOp) (hkeeps : ∀ kept ∈ op.keeps, kept = data) :
    Ends (Vouched downloader expected algorithm data) (call environment op)
      (fun _ => Vouched downloader expected algorithm data)
      (Failed downloader url expected algorithm) :=
  (ends_call_vouched op hkeeps).weaken (fun _ h => h) (fun _ _ h => h) fun _ _ h =>
    h.failed_vouched

/-- A file may be written with bytes that were vouched for, and they are vouched for afterwards as
well. -/
theorem ends_writeFile_vouched (path : Path) :
    Ends (Vouched downloader expected algorithm data) (writeFile environment path data)
      (fun _ => Vouched downloader expected algorithm data)
      (Failed downloader url expected algorithm) := by
  refine Ends.tryExcept (F := RaisedIn (Vouched downloader expected algorithm data)) ?_
    fun error => ?_
  · refine Ends.bind (ends_call_vouched _ fun kept hkept => (Option.some.inj hkept).symm)
      fun _ => ?_
    exact Ends.bind (ends_call_vouched _ fun _ h => by cases h) fun _ => Ends.pure fun _ h => h
  · split
    · exact Ends.raise fun _ h => h.2.failed fun _ _ _ h => by cases h
    · exact Ends.raise fun _ h => h.failed_vouched

theorem ends_saveBytes_vouched (kind : Kind) (filename : Option Text) :
    Ends (Vouched downloader expected algorithm data) (saveBytes environment data kind filename)
      (fun _ => Vouched downloader expected algorithm data)
      (Failed downloader url expected algorithm) := by
  unfold saveBytes
  refine Ends.ite (fun _ => ?_) fun _ => ?_
  · refine Ends.bind (ends_call_kept _ fun _ h => by cases h) fun _ => ?_
    refine Ends.ite (fun _ => Ends.raise fun _ h => h.failed fun _ _ _ h => by cases h) fun _ => ?_
    exact ends_writeFile_vouched _
  · refine Ends.bind (ends_call_kept _ fun _ h => by cases h) fun _ => ?_
    exact ends_writeFile_vouched _

theorem ends_save_vouched (dest : Option Kind) (name : Text) :
    Ends (Vouched downloader expected algorithm data) (downloader.save environment data dest name)
      (fun _ => Vouched downloader expected algorithm data)
      (Failed downloader url expected algorithm) := by
  cases dest with
  | some kind => exact ends_saveBytes_vouched kind _
  | none =>
      refine Ends.ite (fun _ => ?_) fun _ => ends_saveBytes_vouched _ _
      exact Ends.bind (ends_call_kept _ fun kept hkept => (Option.some.inj hkept).symm) fun _ =>
        Ends.pure fun _ h => h

/-- Whether the bytes came from the cache or from the source, they were checked before they are
returned. -/
theorem ends_obtain_vouched (first : Char) (rest : Text) :
    Ends (fun world : DownloadWorld Error => world.history = [])
      (downloader.obtain environment url (some (first :: rest)) algorithm)
      (fun data => Vouched downloader (first :: rest) algorithm data)
      (Failed downloader url (first :: rest) algorithm) := by
  refine Ends.bind ends_cached_fetched fun cached => ?_
  refine Ends.bind (R := fun _ => Fetched downloader url cached.isSome) ?_ fun data => ?_
  · cases cached with
    | some copy => exact Ends.pure fun _ h => h
    | none => exact ends_fetch_fetched url
  refine Ends.bind (ends_verifyChecksum_matched first rest) fun _ => ?_
  refine Ends.bind (R := fun _ => Vouched downloader (first :: rest) algorithm data) ?_ fun _ =>
    Ends.pure fun _ h => h
  exact Ends.ite (fun _ => ends_call_kept _ fun kept hkept => (Option.some.inj hkept).symm)
    fun _ => Ends.pure fun _ h => h

end Runs

/-- Whatever the outside does: a download with an expected digest keeps bytes, in a file, in the
storage or in the cache, only behind their own digest that matched. When it raises a checksum
error nothing was kept, and a copy that the cache gave was deleted. -/
theorem unmatched_bytes_kept_nowhere (downloader : Downloader)
    (environment : Environment (DownloadOp.Answer Error)) (resource : Resource)
    (dest : Option Kind) (filename : Option Text) (first : Char) (rest algorithm : Text) :
    let run := downloader.download environment resource dest filename (some (first :: rest))
      algorithm ⟨[], ()⟩
    Verified downloader.unicode (first :: rest) algorithm run.2.history ∧
      ∀ shown wanted actual, run.1 = .error (.checksumMismatch shown wanted actual) →
        Unkept run.2.history ∧ (GaveCopy (resource.url.getD []) run.2.history →
          ∃ front, run.2.history = front ++ [⟨.cacheDelete (resource.url.getD []), .ok ()⟩]) := by
  intro run
  have hends : Effect.Ends (fun world : DownloadWorld Error => world.history = [])
      (downloader.download environment resource dest filename (some (first :: rest)) algorithm)
      (fun _ world => Verified downloader.unicode (first :: rest) algorithm world.history)
      (Failed downloader (resource.url.getD []) (first :: rest) algorithm) := by
    refine Effect.Ends.ite (fun _ => Effect.Ends.raise fun world h => ?_) fun _ => ?_
    · refine ⟨?_, fun _ _ _ h => by cases h⟩
      rw [h]
      exact Unkept.verified fun _ hmem => absurd hmem List.not_mem_nil
    refine Effect.Ends.bind (ends_obtain_vouched first rest) fun data => ?_
    exact (ends_save_vouched dest _).weaken (fun _ h => h) (fun _ _ h => h.verified)
      fun _ _ h => h
  obtain ⟨hreturned, hraised⟩ := hends ⟨[], ()⟩ rfl
  have hrun : downloader.download environment resource dest filename (some (first :: rest))
      algorithm ⟨[], ()⟩ = (run.1, run.2) := rfl
  cases hresult : run.1 with
  | ok path =>
      rw [hresult] at hrun
      exact ⟨hreturned path run.2 hrun, fun _ _ _ h => by cases h⟩
  | error error =>
      rw [hresult] at hrun
      have hfailed := hraised error run.2 hrun
      exact ⟨hfailed.verified, fun shown wanted actual h =>
        hfailed.settled shown wanted actual (Except.error.inj h)⟩

end DataSluice.Io.Downloads
