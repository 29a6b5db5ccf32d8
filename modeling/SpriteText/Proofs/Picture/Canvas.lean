import SpriteText.Picture.Canvas

/-!
# What pictures do as a library

The library of pictures does what is documented of the calls of an imaging library.
-/

namespace SpriteText.Picture

/-- Pictures are saved whole. -/
theorem savesWhole_imaging : imaging.SavesWhole := by
  intro picture path
  cases extension : path.hasExtension with
  | true => exact .inr ⟨Png.encode picture, fun tree => if_pos extension⟩
  | false =>
    refine .inl ⟨.value "unknown file extension: ", fun tree => if_neg ?_⟩
    simp [extension]

end SpriteText.Picture
