import FailOpen.Loader.Basic
import Mathlib.Data.Finset.Card
import Mathlib.Data.Multiset.Count

/-!
# Who holds a library

The loader counts the holders of every module, and the open handles to every file, but it does not
know who they are.  `Accounts` says that these numbers are right for a given collection of holders:
every module is counted once for each of its holders, and every module that has a holder at all has
one handle open.  Handles that were open at the beginning stay open.

* `Accounts.load`, `Accounts.retain` and `Accounts.release` add a holder and take one away.
* `Accounts.isMapped_of_mem` and `Accounts.not_isMapped` say what the accounts are good for: the file
  of a module stays mapped while the module has a holder, and not longer.
-/

namespace FailOpen
namespace Loader

/-- The modules among some holders' that were loaded from a file. -/
def openedFor (held : Multiset Module) (file : String) : Finset Module :=
  held.toFinset.filter fun module => module.file = file

/-- The numbers in a loader are right if each module in `held` has one holder for each time that it
occurs, and if nothing else has been loaded since the loader was as in `base`. -/
structure Accounts (base : Loader) (held : Multiset Module) (loader : Loader) : Prop where
  loads : ∀ module ∈ held, module.load < loader.loads
  unique : ∀ first ∈ held, ∀ second ∈ held, first.load = second.load → first = second
  holders : ∀ module ∈ held, loader.holders module.load = held.count module
  handles : ∀ file, loader.handles file = base.handles file + (openedFor held file).card
  orphans : ∀ file, loader.isMapped file → loader.handles file = 0 → base.isMapped file

variable {base loader : Loader} {held : Multiset Module} {module : Module}

theorem openedFor_cons_of_mem (h : module ∈ held) (file : String) :
    openedFor (module ::ₘ held) file = openedFor held file := by
  rw [openedFor, openedFor, Multiset.toFinset_cons,
    Finset.insert_eq_of_mem (Multiset.mem_toFinset.mpr h)]

theorem card_openedFor_cons_of_notMem (h : module ∉ held) (file : String) :
    (openedFor (module ::ₘ held) file).card =
      (openedFor held file).card + if module.file = file then 1 else 0 := by
  rw [openedFor, openedFor, Multiset.toFinset_cons, Finset.filter_insert]
  by_cases hfile : module.file = file
  · rw [if_pos hfile, if_pos hfile, Finset.card_insert_of_notMem]
    simp [h]
  · rw [if_neg hfile, if_neg hfile, Nat.add_zero]

/-! ## Images -/

theorem isMapped_of_handles_pos {file : String} (h : 0 < loader.handles file) :
    loader.isMapped file := by
  unfold isMapped
  unfold handles at h
  cases himage : loader.images file with
  | none => simp [himage] at h
  | some image => rfl

theorem handles_of_not_isMapped {file : String} (h : loader.isMapped file = false) :
    loader.handles file = 0 := by
  unfold isMapped at h
  unfold handles
  cases himage : loader.images file with
  | none => rfl
  | some image => simp [himage] at h

theorem handles_of_images {next : Loader} {file : String} {image : Option Image}
    (h : next.images = update loader.images file image) (other : String) :
    next.handles other = if other = file then image.elim 0 Image.handles
      else loader.handles other := by
  unfold handles
  rw [h]
  by_cases hfile : other = file
  · rw [hfile, update_same, if_pos rfl]
  · rw [update_of_ne _ _ hfile, if_neg hfile]

theorem isMapped_of_images {next : Loader} {file : String} {image : Option Image}
    (h : next.images = update loader.images file image) (other : String) :
    next.isMapped other = if other = file then image.isSome else loader.isMapped other := by
  unfold isMapped
  rw [h]
  by_cases hfile : other = file
  · rw [hfile, update_same, if_pos rfl]
  · rw [update_of_ne _ _ hfile, if_neg hfile]

theorem images_closeHandle (loader : Loader) (file : String) :
    (loader.closeHandle file).images = update loader.images file
      ((loader.images file).bind fun image =>
        if image.handles ≤ 1 then none else some { image with handles := image.handles - 1 }) := by
  unfold closeHandle
  cases himage : loader.images file with
  | none =>
    have hsame := update_eq_self loader.images file
    rw [himage] at hsame
    exact hsame.symm
  | some image =>
    by_cases hlast : image.handles ≤ 1
    · simp only [Option.bind_some, if_pos hlast]
    · simp only [Option.bind_some, if_neg hlast]

theorem images_openHandle (loader : Loader) (found : Found) :
    (loader.openHandle found).images = update loader.images found.file
      (some ((loader.images found.file).elim { path := found.path, handles := 1 } fun image =>
        { image with handles := image.handles + 1 })) := by
  unfold openHandle
  cases loader.images found.file <;> rfl

theorem images_modifyStatics (loader : Loader) (file : String) (f : Statics → Statics) :
    (loader.modifyStatics file f).images = update loader.images file
      ((loader.images file).map fun image => { image with statics := f image.statics }) := by
  unfold modifyStatics
  cases himage : loader.images file with
  | none =>
    have hsame := update_eq_self loader.images file
    rw [himage] at hsame
    exact hsame.symm
  | some image => rfl

/-! ## Handles -/

theorem handles_closeHandle (loader : Loader) (file other : String) :
    (loader.closeHandle file).handles other =
      loader.handles other - if other = file then 1 else 0 := by
  rw [handles_of_images (images_closeHandle loader file)]
  by_cases hfile : other = file
  · subst hfile
    rw [if_pos rfl, if_pos rfl]
    unfold handles
    cases loader.images other with
    | none => rfl
    | some image =>
      by_cases hlast : image.handles ≤ 1
      · simp [hlast]
      · simp [hlast]
  · rw [if_neg hfile, if_neg hfile, Nat.sub_zero]

theorem handles_openHandle (loader : Loader) (found : Found) (other : String) :
    (loader.openHandle found).handles other =
      loader.handles other + if other = found.file then 1 else 0 := by
  rw [handles_of_images (images_openHandle loader found)]
  by_cases hfile : other = found.file
  · subst hfile
    rw [if_pos rfl, if_pos rfl]
    unfold handles
    cases loader.images found.file <;> rfl
  · rw [if_neg hfile, if_neg hfile, Nat.add_zero]

theorem handles_modifyStatics (loader : Loader) (file : String) (f : Statics → Statics)
    (other : String) : (loader.modifyStatics file f).handles other = loader.handles other := by
  rw [handles_of_images (images_modifyStatics loader file f)]
  by_cases hfile : other = file
  · subst hfile
    rw [if_pos rfl]
    unfold handles
    cases loader.images other <;> rfl
  · rw [if_neg hfile]

/-- A file that is mapped without a handle was so before a handle was closed. -/
theorem isMapped_of_isMapped_closeHandle {file other : String}
    (hmapped : (loader.closeHandle file).isMapped other)
    (hhandles : (loader.closeHandle file).handles other = 0) :
    loader.isMapped other ∧ loader.handles other = 0 := by
  rw [isMapped_of_images (images_closeHandle loader file)] at hmapped
  rw [handles_of_images (images_closeHandle loader file)] at hhandles
  by_cases hfile : other = file
  · subst hfile
    rw [if_pos rfl] at hmapped hhandles
    cases himage : loader.images other with
    | none => simp [himage] at hmapped
    | some image =>
      by_cases hlast : image.handles ≤ 1
      · simp [himage, hlast] at hmapped
      · simp [himage, hlast] at hhandles
        omega
  · rw [if_neg hfile] at hmapped hhandles
    exact ⟨hmapped, hhandles⟩

/-! ## Loads and releases -/

theorem exists_found_of_load {path : String} {next : Loader}
    (h : loader.load path = .ok (module, next)) :
    ∃ found : Found, ⟨loader.loads, path, found.file⟩ = module ∧ loader.hold found = next := by
  unfold load at h
  cases hlocate : loader.locate path with
  | error fault => simp [hlocate] at h
  | ok found =>
    simp only [hlocate, Except.ok.injEq, Prod.mk.injEq] at h
    exact ⟨found, h⟩

theorem closeHandle_counters (loader : Loader) (file : String) :
    (loader.closeHandle file).loads = loader.loads ∧
      (loader.closeHandle file).holders = loader.holders := by
  unfold closeHandle
  cases loader.images file with
  | none => exact ⟨rfl, rfl⟩
  | some image =>
    by_cases hlast : image.handles ≤ 1
    · simp [hlast]
    · simp [hlast]

theorem loads_release (loader : Loader) (module : Module) :
    (loader.release module).loads = loader.loads := by
  unfold release
  split
  · exact (closeHandle_counters _ _).1
  · rfl

theorem holders_release (loader : Loader) (module : Module) :
    (loader.release module).holders =
      update loader.holders module.load (loader.holders module.load - 1) := by
  unfold release
  split
  · exact (closeHandle_counters _ _).2
  · rfl

/-! ## Accounts -/

namespace Accounts

/-- At the beginning nothing has been loaded and nobody holds anything. -/
theorem zero (loader : Loader) : Accounts loader 0 loader where
  loads _ hmem := (Multiset.notMem_zero _ hmem).elim
  unique _ hmem := (Multiset.notMem_zero _ hmem).elim
  holders _ hmem := (Multiset.notMem_zero _ hmem).elim
  handles _ := rfl
  orphans _ hmapped _ := hmapped

/-- The accounts only speak of the counters and of which files are mapped with how many handles. -/
theorem congr {next : Loader} (h : Accounts base held loader) (hloads : next.loads = loader.loads)
    (hholders : next.holders = loader.holders) (hhandles : next.handles = loader.handles)
    (hmapped : ∀ file, next.isMapped file → loader.isMapped file) : Accounts base held next where
  loads := by
    rw [hloads]
    exact h.loads
  unique := h.unique
  holders := by
    rw [hholders]
    exact h.holders
  handles := by
    rw [hhandles]
    exact h.handles
  orphans file hfile hzero := by
    rw [hhandles] at hzero
    exact h.orphans file (hmapped file hfile) hzero

theorem modifyStatics (h : Accounts base held loader) (file : String) (f : Statics → Statics) :
    Accounts base held (loader.modifyStatics file f) := by
  have hsame : (loader.modifyStatics file f).loads = loader.loads ∧
      (loader.modifyStatics file f).holders = loader.holders := by
    unfold Loader.modifyStatics
    cases loader.images file <;> exact ⟨rfl, rfl⟩
  refine h.congr hsame.1 hsame.2 (funext (handles_modifyStatics loader file f)) fun other => ?_
  rw [isMapped_of_images (images_modifyStatics loader file f)]
  by_cases hfile : other = file
  · subst hfile
    rw [if_pos rfl, Option.isSome_map]
    exact id
  · rw [if_neg hfile]
    exact id

/-- One more holder of a module that has one already. -/
theorem retain (h : Accounts base held loader) (hmem : module ∈ held) :
    Accounts base (module ::ₘ held) (loader.retain module) where
  loads := Multiset.forall_mem_cons.mpr ⟨h.loads module hmem, h.loads⟩
  unique := by
    intro first hfirst second hsecond hload
    rw [Multiset.mem_cons] at hfirst hsecond
    have hfirst' : first ∈ held := hfirst.elim (fun heq => heq ▸ hmem) id
    have hsecond' : second ∈ held := hsecond.elim (fun heq => heq ▸ hmem) id
    exact h.unique first hfirst' second hsecond' hload
  holders := by
    intro other hother
    have hother' : other ∈ held := (Multiset.mem_cons.mp hother).elim (fun heq => heq ▸ hmem) id
    change update loader.holders module.load _ other.load = _
    by_cases hsame : other = module
    · subst hsame
      rw [update_same, Multiset.count_cons_self, h.holders other hmem]
    · -- no other module has this number, so its count is left alone
      have hload : other.load ≠ module.load := fun hload =>
        hsame (h.unique other hother' module hmem hload)
      rw [update_of_ne _ _ hload, Multiset.count_cons_of_ne hsame, h.holders other hother']
  handles file := by
    rw [openedFor_cons_of_mem hmem]
    exact h.handles file
  orphans := h.orphans

/-- A new module, which has one holder. -/
theorem load (h : Accounts base held loader) {path : String} {next : Loader}
    (hload : loader.load path = .ok (module, next)) : Accounts base (module ::ₘ held) next := by
  obtain ⟨found, rfl, rfl⟩ := exists_found_of_load hload
  -- the new module has a number that no module with a holder has
  have hnew : ∀ other ∈ held, other.load ≠ loader.loads := fun other hother =>
    Nat.ne_of_lt (h.loads other hother)
  have hnotMem : (⟨loader.loads, path, found.file⟩ : Module) ∉ held := fun hmem => hnew _ hmem rfl
  refine ⟨?_, ?_, ?_, fun file => ?_, fun file hmapped hzero => ?_⟩
  · refine Multiset.forall_mem_cons.mpr ⟨Nat.lt_succ_self _, fun other hother => ?_⟩
    exact Nat.lt_succ_of_lt (h.loads other hother)
  · intro first hfirst second hsecond hsame
    rw [Multiset.mem_cons] at hfirst hsecond
    rcases hfirst with rfl | hfirst
    · rcases hsecond with rfl | hsecond
      · rfl
      · exact (hnew second hsecond hsame.symm).elim
    · rcases hsecond with rfl | hsecond
      · exact (hnew first hfirst hsame).elim
      · exact h.unique first hfirst second hsecond hsame
  · refine Multiset.forall_mem_cons.mpr ⟨?_, fun other hother => ?_⟩
    · change update loader.holders loader.loads 1 loader.loads = _
      rw [update_same, Multiset.count_cons_self, Multiset.count_eq_zero_of_notMem hnotMem]
    · change update loader.holders loader.loads 1 other.load = _
      have hne : other ≠ ⟨loader.loads, path, found.file⟩ := fun heq => hnotMem (heq ▸ hother)
      rw [update_of_ne _ _ (hnew other hother), Multiset.count_cons_of_ne hne,
        h.holders other hother]
  · change (loader.openHandle found).handles file = _
    rw [handles_openHandle, card_openedFor_cons_of_notMem hnotMem, h.handles file, Nat.add_assoc]
    simp only [eq_comm]
  · change (loader.openHandle found).isMapped file = true at hmapped
    change (loader.openHandle found).handles file = 0 at hzero
    rw [handles_openHandle] at hzero
    have hfile : file ≠ found.file := by
      rintro rfl
      simp at hzero
    rw [isMapped_of_images (images_openHandle loader found), if_neg hfile] at hmapped
    exact h.orphans file hmapped (by omega)

/-- One holder less.  If it is the last one, the handle of the module is closed. -/
theorem release (h : Accounts base (module ::ₘ held) loader) :
    Accounts base held (loader.release module) := by
  have hcount : loader.holders module.load = held.count module + 1 := by
    rw [h.holders module (Multiset.mem_cons_self module held), Multiset.count_cons_self]
  have hloads : ∀ other ∈ held, other.load < (loader.release module).loads := by
    rw [loads_release]
    exact fun other hother => h.loads other (Multiset.mem_cons_of_mem hother)
  have hunique : ∀ first ∈ held, ∀ second ∈ held, first.load = second.load → first = second :=
    fun first hfirst second hsecond =>
      h.unique first (Multiset.mem_cons_of_mem hfirst) second (Multiset.mem_cons_of_mem hsecond)
  have hholders : ∀ other ∈ held,
      (loader.release module).holders other.load = held.count other := by
    intro other hother
    rw [holders_release]
    by_cases hsame : other = module
    · subst hsame
      rw [update_same, hcount, Nat.add_sub_cancel]
    · have hload : other.load ≠ module.load := fun hload =>
        hsame (h.unique other (Multiset.mem_cons_of_mem hother) module
          (Multiset.mem_cons_self module held) hload)
      rw [update_of_ne _ _ hload, h.holders other (Multiset.mem_cons_of_mem hother),
        Multiset.count_cons_of_ne hsame]
  by_cases hmem : module ∈ held
  · -- the module has another holder, so its handle stays open
    have hmore : loader.holders module.load ≠ 1 := by
      have hpos := Multiset.count_pos.mpr hmem
      omega
    refine ⟨hloads, hunique, hholders, fun file => ?_, ?_⟩
    · rw [Loader.release, if_neg hmore, ← openedFor_cons_of_mem hmem]
      exact h.handles file
    · rw [Loader.release, if_neg hmore]
      exact h.orphans
  · have hlast : loader.holders module.load = 1 := by
      rw [hcount, Multiset.count_eq_zero_of_notMem hmem]
    refine ⟨hloads, hunique, hholders, fun file => ?_, fun file hmapped hzero => ?_⟩
    · rw [Loader.release, if_pos hlast, handles_closeHandle]
      change loader.handles file - _ = _
      rw [h.handles file, card_openedFor_cons_of_notMem hmem]
      simp only [eq_comm]
      omega
    · rw [Loader.release, if_pos hlast] at hmapped hzero
      obtain ⟨hbefore, hnone⟩ := isMapped_of_isMapped_closeHandle hmapped hzero
      exact h.orphans file hbefore hnone

/-- The file of a module that has a holder is mapped. -/
theorem isMapped_of_mem (h : Accounts base held loader) (hmem : module ∈ held) :
    loader.isMapped module.file := by
  have hopened : module ∈ openedFor held module.file := by
    simp [openedFor, hmem]
  have hcard := Finset.card_pos.mpr ⟨module, hopened⟩
  refine isMapped_of_handles_pos ?_
  rw [h.handles module.file]
  omega

/-- A file that was not mapped at the beginning is not mapped when no module of it has a holder. -/
theorem isMapped_eq_false (h : Accounts base held loader) {file : String}
    (hbase : base.isMapped file = false) (hheld : ∀ module ∈ held, module.file ≠ file) :
    loader.isMapped file = false := by
  have hopened : openedFor held file = ∅ := by
    rw [openedFor, Finset.filter_eq_empty_iff]
    exact fun module hmem => hheld module (Multiset.mem_toFinset.mp hmem)
  have hzero : loader.handles file = 0 := by
    rw [h.handles file, hopened, Finset.card_empty, handles_of_not_isMapped hbase]
  cases hmapped : loader.isMapped file with
  | false => rfl
  | true => exact (h.orphans file hmapped hzero).symm.trans hbase

end Accounts

end Loader
end FailOpen
