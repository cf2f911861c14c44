/-
# Darkroom.File.Writer -- files as bytes
-/
import Darkroom.Encoding
import Darkroom.File.Bmp.Write
import Darkroom.File.Gif.Write
import Darkroom.File.Jpeg.Write
import Darkroom.File.Png.Write
import Darkroom.File.Tiff.Write

namespace Darkroom.Encoding

set_option autoImplicit false

/-- A single picture as a GIF file. -/
def gifOfPicture (r : Raster) : Gif :=
  let indices := indexed r
  { width := r.width
    height := r.height
    palette := some indices.palette
    background := 0
    loop := none
    images := [⟨⟨0, 0, r.width, r.height⟩, indices.data, none, none⟩]
    damage := none }

/-- The bytes of the file. -/
def bytes : Encoding → Bytes
  | .jpeg r quality => (Jpeg.Written.ofRaster r (qualityNumber quality)).bytes
  | .png r => Png.bytes r
  | .tiff r => Tiff.bytes r
  | .bmp r => Bmp.bytes r
  | .gif r => (gifOfPicture r).bytes
  | .animation a => (gifFile a).bytes

end Darkroom.Encoding
