import SpriteText.Main
import SpriteText.Proofs.Asset.CutOff
import SpriteText.Proofs.Asset.Refusals
import SpriteText.Proofs.Asset.RepeatedNames
import SpriteText.Proofs.Command.StoredAsset
import SpriteText.Proofs.Constants.HeaderArrays
import SpriteText.Proofs.Constants.SameModule
import SpriteText.Proofs.Drawing.Blanks
import SpriteText.Proofs.Drawing.Bookkeeping
import SpriteText.Proofs.Drawing.Loop
import SpriteText.Proofs.Drawing.Mismatch
import SpriteText.Proofs.Drawing.Ranks
import SpriteText.Proofs.Packing.Runs
import SpriteText.Proofs.Picture.Previews
import SpriteText.Proofs.Picture.Strips
import SpriteText.Proofs.Sheet.FirstOffence
import SpriteText.Proofs.Sheet.KeptRows
import SpriteText.Proofs.Sheet.OfText
import SpriteText.Proofs.Sheet.Outcomes
import SpriteText.Proofs.Showcase
