import FailOpen.Loader.Bind

/-!
# Which entry points are missing

Resolving the entry points of a module succeeds exactly if all of them are found through its file,
and otherwise reports the first one that is not, in the order in which they are resolved.
-/

namespace FailOpen
namespace Loader

variable {loader : Loader} {finds : String → Bool} {module : Module} {missing : Unresolved}

/-- The name of an entry point reaches the loader as it is. -/
theorem plainName_symbol (point : EntryPoint) : plainName point.symbol = .ok point.symbol := by
  cases point <;> cbv

theorem findSymbol_of_finds {point : EntryPoint} (h : finds point.symbol = true) :
    loader.findSymbol finds module point.symbol = .ok () := by
  simp [findSymbol, plainName_symbol, h]

theorem findSymbol_of_not_finds {point : EntryPoint} (h : finds point.symbol = false) :
    ∃ fault, loader.findSymbol finds module point.symbol = .error fault := by
  simp [findSymbol, plainName_symbol, h]

theorem firstUnresolved?_eq_none {points : List EntryPoint}
    (h : loader.firstUnresolved? finds module points = none) :
    ∀ point ∈ points, finds point.symbol = true := by
  induction points with
  | nil => simp
  | cons point points ih =>
    cases hfinds : finds point.symbol with
    | true =>
      rw [firstUnresolved?, findSymbol_of_finds hfinds] at h
      exact List.forall_mem_cons.mpr ⟨hfinds, ih h⟩
    | false =>
      obtain ⟨fault, hfault⟩ : ∃ fault, loader.findSymbol finds module point.symbol = .error fault :=
        findSymbol_of_not_finds hfinds
      rw [firstUnresolved?, hfault] at h
      cases h

theorem firstUnresolved?_eq_some {points : List EntryPoint}
    (h : loader.firstUnresolved? finds module points = some missing) :
    finds missing.entryPoint.symbol = false ∧
      ∀ point ∈ points.takeWhile (· ≠ missing.entryPoint), finds point.symbol = true := by
  induction points with
  | nil => cases h
  | cons point points ih =>
    cases hfinds : finds point.symbol with
    | true =>
      rw [firstUnresolved?, findSymbol_of_finds hfinds] at h
      obtain ⟨hmissing, hbefore⟩ := ih h
      have hne : point ≠ missing.entryPoint := by
        rintro rfl
        rw [hfinds] at hmissing
        cases hmissing
      rw [List.takeWhile_cons_of_pos (by simpa using hne)]
      exact ⟨hmissing, List.forall_mem_cons.mpr ⟨hfinds, hbefore⟩⟩
    | false =>
      obtain ⟨fault, hfault⟩ : ∃ fault, loader.findSymbol finds module point.symbol = .error fault :=
        findSymbol_of_not_finds hfinds
      rw [firstUnresolved?, hfault] at h
      obtain rfl := Option.some.inj h
      rw [List.takeWhile_cons_of_neg (by simp)]
      exact ⟨hfinds, by simp⟩

/-- Which entry point is missing depends on nothing but what is found through the file. -/
theorem firstUnresolved?_entryPoint (points : List EntryPoint) :
    (loader.firstUnresolved? finds module points).map Unresolved.entryPoint =
      points.find? fun point => !finds point.symbol := by
  induction points with
  | nil => rfl
  | cons point points ih =>
    cases hfinds : finds point.symbol with
    | true =>
      rw [firstUnresolved?, findSymbol_of_finds hfinds, List.find?_cons_of_neg (by simp [hfinds])]
      exact ih
    | false =>
      obtain ⟨fault, hfault⟩ : ∃ fault, loader.findSymbol finds module point.symbol = .error fault :=
        findSymbol_of_not_finds hfinds
      rw [firstUnresolved?, hfault, List.find?_cons_of_pos (by simp [hfinds])]
      rfl

end Loader
end FailOpen
