import Darkroom.Main
import Darkroom.Proofs.Outcome
import Darkroom.Proofs.Rounding
import Darkroom.Proofs.Sides
import Darkroom.Proofs.Fitting
import Darkroom.Proofs.Pixels
import Darkroom.Proofs.Resampling
import Darkroom.Proofs.Solid
import Darkroom.Proofs.FixedPalette
import Darkroom.Proofs.Dithering
import Darkroom.Proofs.Running
import Darkroom.Proofs.Request
import Darkroom.Proofs.Frames
import Darkroom.Proofs.Agreement
import Darkroom.Proofs.PassThrough
import Darkroom.Proofs.Size
import Darkroom.Proofs.Orientation
import Darkroom.Proofs.Motions
import Darkroom.Proofs.FixedPictures
import Darkroom.Proofs.Reducing
import Darkroom.Proofs.Turning
import Darkroom.Proofs.Rounds
import Darkroom.Proofs.Rereading
import Darkroom.Proofs.Screens
import Darkroom.Proofs.Layers
import Darkroom.Proofs.Canvases
import Darkroom.Proofs.Carrying
import Darkroom.Proofs.Refusals
import Darkroom.Proofs.Files
import Darkroom.Proofs.Stamping
import Darkroom.Proofs.Sampling
import Darkroom.Proofs.Choosing
import Darkroom.Proofs.Blending
import Darkroom.Proofs.Placing
import Darkroom.Proofs.Boxing
import Darkroom.Proofs.Limits
import Darkroom.Proofs.Answering
import Darkroom.Proofs.Entrances
import Darkroom.Proofs.Parsing
import Darkroom.Proofs.Jobs
import Darkroom.Proofs.Ending
import Darkroom.Proofs.Delivery
import Darkroom.Proofs.Shelving
import Darkroom.Proofs.Complaints
import Darkroom.Proofs.Restoring
import Darkroom.Proofs.Telling
import Darkroom.Proofs.Deriving
import Darkroom.Proofs.OneSide
import Darkroom.Proofs.Showing
import Darkroom.Proofs.Frequent
import Darkroom.Proofs.Uniform
import Darkroom.Proofs.Invisible
import Darkroom.Proofs.Dihedral
import Darkroom.Proofs.Hexadecimal
import Darkroom.Proofs.ColorTexts
import Darkroom.Proofs.Verbosity
import Darkroom.Proofs.CoverFactor
import Darkroom.Proofs.Extensions
import Darkroom.Proofs.Configuring
import Darkroom.Proofs.Seeding
