import FailOpen.Loader.Bind
import FailOpen.Proofs.Startup.Redacted

/-!
# The loader without secrets

The data of a library hold the arguments that it has been started with, and so the secrets among
them.  The loader never looks at these data: everything that it does commutes with removing the
secrets, and everything that it reports is the same without them.
-/

namespace FailOpen

/-! ## Calls and data -/

def Call.redacted : Call → Call
  | .startup args => .startup args.redacted
  | .block exchange => .block exchange
  | .ingest trace => .ingest trace

def Analyzer.Request.redacted : Request → Request
  | .start config => .start config.redacted
  | .block exchange => .block exchange
  | .ingest trace => .ingest trace

def Analyzer.Instance.redacted (started : Instance) : Instance where
  config := started.config.redacted
  received := started.received.map Request.redacted

theorem Analyzer.Instance.receive_redacted (started : Instance) (request : Request) :
    (started.receive request).redacted = started.redacted.receive request.redacted := by
  unfold receive redacted
  rw [List.map_append]
  rfl

theorem Analyzer.Instance.ingested_redacted (started : Instance) :
    started.redacted.ingested = started.ingested := by
  unfold redacted ingested
  rw [List.countP_map]
  refine List.countP_congr fun request _ => ?_
  cases request <;> rfl

def Analyzer.Memory.redacted (memory : Memory) : Memory where
  asked := memory.asked.map Request.redacted
  slot := memory.slot.map Instance.redacted

namespace Loader

def Statics.redacted (statics : Statics) : Statics where
  toMemory := statics.toMemory.redacted
  received := statics.received.map Call.redacted

theorem Statics.ingested_redacted (statics : Statics) :
    statics.redacted.ingested = statics.ingested := by
  unfold redacted ingested Analyzer.Memory.redacted
  cases statics.slot with
  | none => rfl
  | some started => exact started.ingested_redacted

def Image.redacted (image : Image) : Image :=
  { image with statics := image.statics.redacted }

end Loader

def Loader.redacted (loader : Loader) : Loader :=
  { loader with images := fun file => (loader.images file).map Loader.Image.redacted }

/-- A function with one value replaced, seen through another function. -/
theorem map_update {α β γ : Type} [DecidableEq α] (f : α → β) (a : α) (b : β) (g : β → γ) :
    (fun x => g (update f a b x)) = update (fun x => g (f x)) a (g b) := by
  funext x
  by_cases hx : x = a
  · rw [hx, update_same, update_same]
  · rw [update_of_ne _ _ hx, update_of_ne _ _ hx]

namespace Loader

variable (loader : Loader)

theorem images_redacted (file : String) :
    loader.redacted.images file = (loader.images file).map Image.redacted := rfl

/-! ## What the loader reports -/

theorem isMapped_redacted (file : String) : loader.redacted.isMapped file = loader.isMapped file :=
  Option.isSome_map

theorem statics_redacted (file : String) :
    loader.redacted.statics file = (loader.statics file).redacted := by
  unfold statics
  rw [images_redacted]
  cases loader.images file <;> rfl

theorem findSymbol_redacted (finds : String → Bool) (module : Module) (symbol : String) :
    loader.redacted.findSymbol finds module symbol = loader.findSymbol finds module symbol := by
  have himage : (loader.redacted.images module.file).elim module.path Image.name =
      (loader.images module.file).elim module.path Image.name := by
    rw [images_redacted]
    cases loader.images module.file <;> rfl
  simp only [findSymbol, himage]

theorem unresolved?_redacted (finds : String → Bool) (module : Module) :
    loader.redacted.unresolved? finds module = loader.unresolved? finds module := by
  have hfirst (points : List EntryPoint) : loader.redacted.firstUnresolved? finds module points =
      loader.firstUnresolved? finds module points := by
    induction points with
    | nil => rfl
    | cons point points ih => rw [firstUnresolved?, firstUnresolved?, findSymbol_redacted, ih]
  exact hfirst EntryPoint.all

/-! ## What the loader does -/

theorem redacted_withImages (images : String → Option Image) :
    ({ loader with images } : Loader).redacted =
      { loader.redacted with images := fun file => (images file).map Image.redacted } := rfl

theorem modifyStatics_redacted (file : String) {f g : Statics → Statics}
    (h : ∀ statics, (f statics).redacted = g statics.redacted) :
    (loader.modifyStatics file f).redacted = loader.redacted.modifyStatics file g := by
  unfold modifyStatics
  rw [images_redacted]
  cases loader.images file with
  | none => rfl
  | some image =>
    dsimp only [Option.map_some]
    rw [redacted_withImages, map_update, Option.map_some]
    unfold Image.redacted
    rw [h]
    rfl

theorem closeHandle_redacted (file : String) :
    (loader.closeHandle file).redacted = loader.redacted.closeHandle file := by
  unfold closeHandle
  rw [images_redacted]
  cases loader.images file with
  | none => rfl
  | some image =>
    dsimp only [Option.map_some]
    rw [show image.redacted.handles = image.handles from rfl]
    split
    · exact congrArg (fun images => { loader.redacted with
        images, known := fun name => (loader.known name).filter (· ≠ file) })
        (map_update loader.images file none (Option.map Image.redacted))
    · exact congrArg (fun images => { loader.redacted with images })
        (map_update loader.images file _ (Option.map Image.redacted))

theorem release_redacted (module : Module) :
    (loader.release module).redacted = loader.redacted.release module := by
  unfold release
  rw [show loader.redacted.holders = loader.holders from rfl]
  split
  · exact closeHandle_redacted _ module.file
  · rfl

theorem addName_redacted (file name : String) :
    (loader.addName file name).redacted = loader.redacted.addName file name := by
  unfold addName
  rw [show loader.redacted.known = loader.known from rfl]
  split <;> rfl

theorem openHandle_redacted (found : Found) :
    (loader.openHandle found).redacted = loader.redacted.openHandle found := by
  unfold openHandle
  rw [images_redacted]
  cases loader.images found.file with
  | none =>
    dsimp only [Option.map_none]
    rw [redacted_withImages, map_update, addName_redacted, addName_redacted]
    rfl
  | some image =>
    dsimp only [Option.map_some]
    rw [redacted_withImages, map_update, addName_redacted]
    rfl

/-- A load finds the same, and leaves the same but for the secrets. -/
theorem load_redacted (path : String) :
    loader.redacted.load path =
      (loader.load path).map fun (module, next) => (module, next.redacted) := by
  unfold load
  rw [show loader.redacted.locate path = loader.locate path from rfl]
  cases loader.locate path with
  | error fault => rfl
  | ok found =>
    have hhold : (loader.hold found).redacted = loader.redacted.hold found := by
      unfold hold
      dsimp only
      rw [← openHandle_redacted]
      rfl
    dsimp only [Except.map]
    rw [hhold]
    rfl

end Loader
end FailOpen
