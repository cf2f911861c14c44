/-
# Darkroom.File.Reader -- recognising picture files

A file is recognised by its first bytes, and read as what they say.
-/
import Darkroom.File.Bmp
import Darkroom.File.Gif.Blocks
import Darkroom.File.Jpeg
import Darkroom.File.Netpbm
import Darkroom.File.Png
import Darkroom.File.Tiff

namespace Darkroom.Reader

set_option autoImplicit false

/-- What a file is recognised as, among the five formats. -/
def recognised (data : Bytes) : Recognised :=
  Jpeg.recognised data <|> Png.recognised data <|> Bmp.recognised data <|> Gif.recognised data <|>
    Tiff.recognised data

/-- What the bytes of a file hold, when it is in one of the five formats. -/
def source (data : Bytes) : Opened := (recognised data).opened

/-- What a file is recognised as, among all formats that can be read. -/
def any (data : Bytes) : Recognised := recognised data <|> Netpbm.recognised data

end Darkroom.Reader
