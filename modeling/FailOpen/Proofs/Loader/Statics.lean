import FailOpen.Proofs.Loader.Accounts

/-!
# The data of a mapped file

The data of a file stay as they are while handles come and go, as long as the file stays mapped.  A
file that is not mapped has fresh data, so mapping it changes nothing, and only the last handle to be
closed makes a difference.
-/

namespace FailOpen
namespace Loader

variable {loader : Loader} {file : String}

theorem statics_of_images {next : Loader} {image : Option Image}
    (h : next.images = update loader.images file image) (other : String) :
    next.statics other = if other = file then image.elim {} Image.statics
      else loader.statics other := by
  unfold statics
  rw [h]
  by_cases hfile : other = file
  · rw [hfile, update_same, if_pos rfl]
  · rw [update_of_ne _ _ hfile, if_neg hfile]

/-- A file that is not mapped has fresh data. -/
theorem statics_of_not_isMapped (h : loader.isMapped file = false) : loader.statics file = {} := by
  unfold isMapped at h
  unfold statics
  cases himage : loader.images file with
  | none => rfl
  | some image => simp [himage] at h

theorem statics_openHandle (loader : Loader) (found : Found) (other : String) :
    (loader.openHandle found).statics other = loader.statics other := by
  rw [statics_of_images (images_openHandle loader found)]
  by_cases hfile : other = found.file
  · subst hfile
    rw [if_pos rfl]
    unfold statics
    cases loader.images found.file <;> rfl
  · rw [if_neg hfile]

/-- Loading changes no data: a file that it maps had none. -/
theorem statics_of_load {path : String} {module : Module} {next : Loader}
    (h : loader.load path = .ok (module, next)) (other : String) :
    next.statics other = loader.statics other := by
  obtain ⟨found, rfl, rfl⟩ := exists_found_of_load h
  exact statics_openHandle loader found other

theorem statics_modifyStatics (loader : Loader) (file : String) (f : Statics → Statics)
    (other : String) :
    (loader.modifyStatics file f).statics other =
      if other = file ∧ loader.isMapped other then f (loader.statics other)
      else loader.statics other := by
  rw [statics_of_images (images_modifyStatics loader file f)]
  by_cases hfile : other = file
  · subst hfile
    unfold isMapped statics
    cases loader.images other <;> simp
  · simp [hfile]

theorem isMapped_modifyStatics (loader : Loader) (file : String) (f : Statics → Statics)
    (other : String) : (loader.modifyStatics file f).isMapped other = loader.isMapped other := by
  rw [isMapped_of_images (images_modifyStatics loader file f)]
  by_cases hfile : other = file
  · subst hfile
    rw [if_pos rfl, Option.isSome_map]
    rfl
  · rw [if_neg hfile]

/-- What stays mapped when a handle is closed was mapped before, with the same data. -/
theorem statics_closeHandle_of_isMapped {other : String}
    (h : (loader.closeHandle file).isMapped other) :
    loader.isMapped other ∧ (loader.closeHandle file).statics other = loader.statics other := by
  rw [isMapped_of_images (images_closeHandle loader file)] at h
  rw [statics_of_images (images_closeHandle loader file)]
  by_cases hfile : other = file
  · subst hfile
    rw [if_pos rfl] at h ⊢
    unfold isMapped statics
    cases himage : loader.images other with
    | none => simp [himage] at h
    | some image =>
      by_cases hlast : image.handles ≤ 1
      · simp [himage, hlast] at h
      · simp [hlast]
  · rw [if_neg hfile] at h ⊢
    exact ⟨h, rfl⟩

/-- What stays mapped when a holder lets go was mapped before, with the same data. -/
theorem statics_release_of_isMapped {module : Module} {other : String}
    (h : (loader.release module).isMapped other) :
    loader.isMapped other ∧ (loader.release module).statics other = loader.statics other := by
  unfold release at h ⊢
  split at h
  · rename_i hlast
    rw [if_pos hlast]
    exact statics_closeHandle_of_isMapped h
  · rename_i hlast
    rw [if_neg hlast]
    exact ⟨h, rfl⟩

end Loader
end FailOpen
