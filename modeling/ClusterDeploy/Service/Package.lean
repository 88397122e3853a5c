import ClusterDeploy.Json.Basic
/-!
# The image a service ships
-/
namespace ClusterDeploy

structure ServicePackage where
  /-- The image as it was built. -/
  image : String
  /-- The reference it is pushed as, when that differs. -/
  remoteImage : Option String := none
  deriving DecidableEq, Repr, Inhabited

namespace ServicePackage

def publishedImage (p : ServicePackage) : String := p.remoteImage.getD p.image

/-- A missing or null remote image is absent. -/
def remoteOf? : Option Json → Option (Option String)
  | none => some none
  | some .null => some none
  | some j => j.str?.map some

/-- Reads an object, or a list of one or two references. -/
def ofJson? : Json → Option ServicePackage
  | .arr [image] => do return ⟨← image.str?, none⟩
  | .arr [image, remote] => do return ⟨← image.str?, ← remoteOf? (some remote)⟩
  | .obj members => do
    let image ← (← Json.lookup "image" members).str?
    return ⟨image, ← remoteOf? (Json.lookup "remoteImage" members)⟩
  | _ => none

def toJson (p : ServicePackage) : Json :=
  .obj [("image", .str p.image), ("remoteImage", .ofOption .str p.remoteImage)]

end ServicePackage

end ClusterDeploy
