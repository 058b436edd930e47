import FailOpen.Proofs.Loader.Statics

/-!
# Where names lead

A name is sought among the names of mapped files first, and on disk only if it is not one of them.
As long as nothing on disk changes, this makes no difference: a mapped file keeps names that lead to
it on disk as well.  So the file that a load finds depends on the disk alone.

* `Follows` says that a loader knows no name that the disk does not lead to the same file.
* `Follows.locate_file` concludes which file a load finds.
* `Follows.load`, `Follows.release` and the lemmas beside them say that it stays so.

A name that is sought in the library directories is found under a path, which becomes a name of the
mapped file too.  On a `Settled` disk this path leads to the same place.
-/

namespace FailOpen
namespace Loader

/-! ## Names on disk -/

/-- The disk leads from a name to a library file. -/
def Disk.Leads (disk : Disk) (name file : String) : Prop :=
  ∃ path location, disk.find name = .ok (path, location) ∧ disk.library location = .ok file

/-- What is found under a name is found again under the path that was taken for it.  Only a path in
which there is still something to be replaced could be an exception. -/
def Disk.Settled (disk : Disk) : Prop :=
  ∀ {name path location}, disk.find name = .ok (path, location) →
    disk.find path = .ok (path, location)

theorem Disk.locateFirst_of_locate {disk : Disk} {path : String} {location : Location}
    (h : disk.locate path = .ok location) (paths : List String) :
    disk.locateFirst (path :: paths) = .ok (path, location) := by
  simp [locateFirst, h]

/-- The path that is taken is one of those that were tried. -/
theorem Disk.of_locateFirst {disk : Disk} {paths : List String} {path : String}
    {location : Location} (h : disk.locateFirst paths = .ok (path, location)) :
    path ∈ paths ∧ disk.locate path = .ok location := by
  induction paths with
  | nil => cases h
  | cons first paths ih =>
    cases hfirst : disk.locate first with
    | ok found =>
      rw [locateFirst_of_locate hfirst] at h
      obtain ⟨rfl, rfl⟩ := Prod.mk.inj (Except.ok.inj h)
      exact ⟨List.mem_cons_self, hfirst⟩
    | error fault =>
      cases paths with
      | nil => simp [locateFirst, hfirst] at h
      | cons second paths =>
        obtain ⟨hmem, hlocate⟩ := ih (by simpa [locateFirst, hfirst] using h)
        exact ⟨List.mem_cons_of_mem _ hmem, hlocate⟩

theorem expandChars_nil (cs : List Char) : expandChars [] 0 cs = cs := by
  induction cs with
  | nil => rfl
  | cons c cs ih =>
    have htoken : (if c = '$' then token? [] cs else none) = none := by
      split <;> rfl
    rw [expandChars, htoken]
    exact congrArg (c :: ·) ih

/-- Without tokens a path is taken as it is. -/
theorem expand_nil (path : String) : expand [] path = path := by
  rw [expand, expandChars_nil, String.ofList_toList]

/-- A disk without tokens is settled: where there is nothing to be replaced, a path is taken as it
is. -/
theorem Disk.settled_of_tokens_nil {disk : Disk} (htokens : disk.tokens = [])
    (hdirectories : ∀ directory ∈ disk.libraryDirectories, '/' ∈ directory.toList) :
    disk.Settled := by
  intro name path location hfind
  unfold find at hfind
  obtain ⟨hmem, hlocate⟩ := of_locateFirst hfind
  have hslash : '/' ∈ path.toList := by
    rw [htokens] at hmem
    split at hmem
    · rename_i hname
      rw [expand_nil] at hmem
      rw [List.mem_singleton.mp hmem]
      exact hname
    · obtain ⟨directory, hdirectory, rfl⟩ := List.mem_map.mp hmem
      rw [String.toList_append]
      exact List.mem_append.mpr (.inl (hdirectories directory hdirectory))
  unfold find
  rw [if_pos hslash, htokens, expand_nil]
  exact locateFirst_of_locate hlocate []

/-! ## Names of mapped files -/

/-- The loader works on the disk, and every name of a mapped file leads to it there as well. -/
structure Follows (disk : Disk) (loader : Loader) : Prop where
  disk_eq : loader.disk = disk
  known : ∀ {name file}, file ∈ loader.known name → disk.Leads name file

variable {disk : Disk} {loader : Loader} {module : Module}

/-- A loader that has loaded nothing follows its disk. -/
theorem follows_fresh (disk : Disk) : ({ disk } : Loader).Follows disk where
  disk_eq := rfl
  known hmem := by cases hmem

/-- Which file a load finds is decided by the disk, and so is why it fails. -/
theorem Follows.locate_file (h : loader.Follows disk) (path : String) :
    (loader.locate path).map Found.file = (({ disk } : Loader).locate path).map Found.file := by
  unfold locate
  cases plainName path with
  | error fault => rfl
  | ok name =>
    cases hknown : loader.known name with
    | nil => simp only [hknown, h.disk_eq]
    | cons file files =>
      obtain ⟨found, location, hfind, hlibrary⟩ : disk.Leads name file :=
        h.known (by rw [hknown]; exact List.mem_cons_self)
      simp [hknown, hfind, hlibrary, Except.map]

/-- What is located is found on disk, under the name and under the path. -/
theorem Follows.leads_of_locate (h : loader.Follows disk) (hsettled : disk.Settled) {path : String}
    {found : Found} (hlocate : loader.locate path = .ok found) :
    disk.Leads found.name found.file ∧ disk.Leads found.path found.file := by
  unfold locate at hlocate
  cases hname : plainName path with
  | error fault => simp [hname] at hlocate
  | ok name =>
    cases hknown : loader.known name with
    | cons file files =>
      have hleads : disk.Leads name file := h.known (by rw [hknown]; exact List.mem_cons_self)
      simp only [hname, hknown, Except.ok.injEq] at hlocate
      subst hlocate
      exact ⟨hleads, hleads⟩
    | nil =>
      simp only [hname, hknown, h.disk_eq] at hlocate
      cases hfind : disk.find name with
      | error fault => simp [hfind] at hlocate
      | ok taken =>
        obtain ⟨path', location⟩ := taken
        cases hlibrary : disk.library location with
        | error fault => simp [hfind, hlibrary] at hlocate
        | ok file =>
          simp only [hfind, hlibrary, Except.ok.injEq] at hlocate
          subst hlocate
          exact ⟨⟨_, _, hfind, hlibrary⟩, ⟨_, _, hsettled hfind, hlibrary⟩⟩

theorem mem_known_addName {file name other given : String}
    (hmem : other ∈ (loader.addName file name).known given) :
    other ∈ loader.known given ∨ (given = name ∧ other = file) := by
  unfold addName at hmem
  split at hmem
  · exact .inl hmem
  · change other ∈ update loader.known name (loader.known name ++ [file]) given at hmem
    by_cases hname : given = name
    · subst hname
      rw [update_same, List.mem_append, List.mem_singleton] at hmem
      exact hmem.imp_right fun hfile => ⟨rfl, hfile⟩
    · rw [update_of_ne _ _ hname] at hmem
      exact .inl hmem

theorem Follows.addName (h : loader.Follows disk) {file name : String}
    (hleads : disk.Leads name file) : (loader.addName file name).Follows disk where
  disk_eq := by
    unfold Loader.addName
    split <;> exact h.disk_eq
  known hmem := by
    rcases mem_known_addName hmem with hknown | ⟨rfl, rfl⟩
    · exact h.known hknown
    · exact hleads

/-- Nothing but the disk and the names of mapped files matters. -/
theorem Follows.congr {next : Loader} (h : loader.Follows disk) (hdisk : next.disk = loader.disk)
    (hknown : ∀ name, ∀ file ∈ next.known name, file ∈ loader.known name) : next.Follows disk where
  disk_eq := hdisk.trans h.disk_eq
  known hmem := h.known (hknown _ _ hmem)

theorem Follows.openHandle (h : loader.Follows disk) {found : Found}
    (hname : disk.Leads found.name found.file) (hpath : disk.Leads found.path found.file) :
    (loader.openHandle found).Follows disk := by
  unfold Loader.openHandle
  cases loader.images found.file with
  | some image => exact (h.addName hname).congr rfl fun _ _ hmem => hmem
  | none => exact ((h.addName hpath).addName hname).congr rfl fun _ _ hmem => hmem

theorem exists_locate_of_load {path : String} {next : Loader}
    (h : loader.load path = .ok (module, next)) :
    ∃ found, loader.locate path = .ok found ∧ module = ⟨loader.loads, path, found.file⟩ ∧
      next = loader.hold found := by
  unfold Loader.load at h
  cases hlocate : loader.locate path with
  | error fault => simp [hlocate] at h
  | ok found =>
    rw [hlocate] at h
    obtain ⟨rfl, rfl⟩ := Prod.mk.inj (Except.ok.inj h)
    exact ⟨found, rfl, rfl, rfl⟩

/-- Two loaders that follow the same disk load the same file from a path, or both of them fail. -/
theorem Follows.load_alike {other : Loader} (h : loader.Follows disk) (h' : other.Follows disk)
    (path : String) :
    (∃ fault fault', loader.load path = .error fault ∧ other.load path = .error fault') ∨
      ∃ module next module' next', loader.load path = .ok (module, next) ∧
        other.load path = .ok (module', next') ∧ module.path = module'.path ∧
          module.file = module'.file := by
  have hfile := (h.locate_file path).trans (h'.locate_file path).symm
  unfold Loader.load
  cases hfirst : loader.locate path with
  | error fault =>
    cases hsecond : other.locate path with
    | error fault' => exact .inl ⟨fault, fault', rfl, rfl⟩
    | ok found' => simp [hfirst, hsecond, Except.map] at hfile
  | ok found =>
    cases hsecond : other.locate path with
    | error fault' => simp [hfirst, hsecond, Except.map] at hfile
    | ok found' =>
      rw [hfirst, hsecond] at hfile
      exact .inr ⟨_, _, _, _, rfl, rfl, rfl, Except.ok.inj hfile⟩

theorem Follows.load (h : loader.Follows disk) (hsettled : disk.Settled) {path : String}
    {next : Loader} (hload : loader.load path = .ok (module, next)) : next.Follows disk := by
  obtain ⟨found, hlocate, -, rfl⟩ := exists_locate_of_load hload
  obtain ⟨hname, hpath⟩ := h.leads_of_locate hsettled hlocate
  exact (h.openHandle hname hpath).congr rfl fun _ _ hmem => hmem

theorem Follows.retain (h : loader.Follows disk) (module : Module) :
    (loader.retain module).Follows disk :=
  h.congr rfl fun _ _ hmem => hmem

theorem Follows.closeHandle (h : loader.Follows disk) (file : String) :
    (loader.closeHandle file).Follows disk := by
  unfold Loader.closeHandle
  cases loader.images file with
  | none => exact h
  | some image =>
    by_cases hlast : image.handles ≤ 1
    · -- the names of the file are forgotten, and no name is added
      simp only [hlast, if_true]
      exact h.congr rfl fun _ _ hmem => List.mem_of_mem_filter hmem
    · simp only [hlast, if_false]
      exact h.congr rfl fun _ _ hmem => hmem

theorem Follows.release (h : loader.Follows disk) (module : Module) :
    (loader.release module).Follows disk := by
  unfold Loader.release
  split
  · refine Follows.closeHandle ?_ module.file
    exact h.congr rfl fun _ _ hmem => hmem
  · exact h.congr rfl fun _ _ hmem => hmem

theorem Follows.modifyStatics (h : loader.Follows disk) (file : String) (f : Statics → Statics) :
    (loader.modifyStatics file f).Follows disk := by
  unfold Loader.modifyStatics
  cases loader.images file with
  | none => exact h
  | some image => exact h.congr rfl fun _ _ hmem => hmem

/-! ## Names of nothing -/

/-- Only mapped files have names. -/
def Named (loader : Loader) : Prop :=
  ∀ name, ∀ file ∈ loader.known name, loader.isMapped file

/-- No name is added, and files that keep a name stay mapped. -/
theorem Named.congr {next : Loader} (h : loader.Named)
    (hkept : ∀ name, ∀ file ∈ next.known name, file ∈ loader.known name ∧
      (next.images file = none → loader.images file = none)) : next.Named := by
  intro name file hmem
  obtain ⟨hknown, hmapped⟩ := hkept name file hmem
  have hbefore := h name file hknown
  unfold isMapped at hbefore ⊢
  rw [Option.isSome_iff_ne_none] at hbefore ⊢
  exact fun hnone => hbefore (hmapped hnone)

theorem eq_none_of_update {images : String → Option Image} {file other : String} {image : Image}
    (h : update images file (some image) other = none) : images other = none := by
  by_cases hother : other = file
  · rw [hother, update_same] at h
    cases h
  · rwa [update_of_ne _ _ hother] at h

theorem Named.openHandle (h : loader.Named) (found : Found) : (loader.openHandle found).Named := by
  intro name file hmem
  have himages := images_openHandle loader found
  by_cases hfile : file = found.file
  · rw [isMapped, himages, hfile, update_same]
    rfl
  · -- no other file has got a name
    have hknown : file ∈ loader.known name := by
      unfold Loader.openHandle at hmem
      cases himage : loader.images found.file with
      | some image =>
        simp only [himage] at hmem
        exact (mem_known_addName hmem).resolve_right fun hadded => hfile hadded.2
      | none =>
        simp only [himage] at hmem
        rcases mem_known_addName hmem with hmem | hadded
        · exact (mem_known_addName hmem).resolve_right fun hadded => hfile hadded.2
        · exact (hfile hadded.2).elim
    rw [isMapped, himages, update_of_ne _ _ hfile]
    exact h name file hknown

theorem Named.load (h : loader.Named) {path : String} {next : Loader}
    (hload : loader.load path = .ok (module, next)) : next.Named := by
  obtain ⟨found, -, -, rfl⟩ := exists_locate_of_load hload
  exact h.openHandle found

theorem Named.retain (h : loader.Named) (module : Module) : (loader.retain module).Named := h

theorem Named.closeHandle (h : loader.Named) (file : String) : (loader.closeHandle file).Named := by
  unfold Loader.closeHandle
  cases loader.images file with
  | none => exact h
  | some image =>
    by_cases hlast : image.handles ≤ 1
    · simp only [hlast, if_true]
      refine h.congr fun name other hmem => ?_
      obtain ⟨hknown, hother⟩ := List.mem_filter.mp hmem
      refine ⟨hknown, fun hnone => ?_⟩
      exact (update_of_ne _ _ (of_decide_eq_true hother)).symm.trans hnone
    · simp only [hlast, if_false]
      exact h.congr fun name other hmem => ⟨hmem, eq_none_of_update⟩

theorem Named.release (h : loader.Named) (module : Module) : (loader.release module).Named := by
  unfold Loader.release
  split
  · refine Named.closeHandle ?_ module.file
    exact h
  · exact h

theorem Named.modifyStatics (h : loader.Named) (file : String) (f : Statics → Statics) :
    (loader.modifyStatics file f).Named := by
  unfold Loader.modifyStatics
  cases loader.images file with
  | none => exact h
  | some image =>
    exact h.congr fun name other hmem => ⟨hmem, eq_none_of_update⟩

/-- A loader that has nothing mapped follows its disk. -/
theorem Named.follows (h : loader.Named) (hnothing : ∀ file, loader.isMapped file = false) :
    loader.Follows loader.disk where
  disk_eq := rfl
  known {name file} hmem := by
    have hmapped := h name file hmem
    rw [hnothing file] at hmapped
    cases hmapped

end Loader
end FailOpen
