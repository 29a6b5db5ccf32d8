import SpriteText.Grid
import SpriteText.Text.Quoted

/-!
# Palettes

A palette ranks glyphs from 0 in the order of their first appearance and holds at most four. Glyphs
are never moved or removed, so a rank is settled when its glyph is first seen.
-/

namespace SpriteText

/-- Up to four distinct glyphs in order of appearance. -/
structure Palette where
  /-- The glyphs; a glyph's rank is its position. -/
  glyphs : List Glyph
  /-- No glyph is held twice. -/
  distinct : glyphs.Nodup
  /-- There are at most four. -/
  limited : glyphs.length ≤ 4
deriving DecidableEq

namespace Palette

/-- The palette without glyphs. -/
def empty : Palette := ⟨[], by simp, by simp⟩

/-- The number of glyphs. -/
def size (palette : Palette) : Nat := palette.glyphs.length

/-- The rank of a glyph, if it is held. -/
def rank? (palette : Palette) (glyph : Glyph) : Option Nat :=
  if glyph ∈ palette.glyphs then some (palette.glyphs.idxOf glyph) else none

/-- The depth that the ranks need. -/
def depth (palette : Palette) : BitDepth := .forGlyphCount palette.size

/-- The rank of a glyph, which is appended if it is new and there is room. -/
def allocate (palette : Palette) (glyph : Glyph) : Except Cause (Palette × Nat) :=
  if held : glyph ∈ palette.glyphs then .ok (palette, palette.glyphs.idxOf glyph)
  else if room : palette.glyphs.length < 4 then
    .ok (⟨palette.glyphs ++ [glyph],
      by
        rw [List.nodup_append]
        refine ⟨palette.distinct, by simp, ?_⟩
        intro known member other single
        rw [List.mem_singleton] at single
        rintro rfl
        exact held (single ▸ member),
      by simp only [List.length_append, List.length_singleton]; omega⟩,
      palette.glyphs.length)
  else .error .tooManyGlyphs

/-- Why a palette cannot answer. -/
inductive Refusal where
  /-- The glyph has no rank. -/
  | unranked (glyph : Glyph)
  /-- A glyph is no code point and cannot be shown. -/
  | notACodePoint
  /-- A glyph is no signed 32-bit number and cannot be shown. -/
  | tooWide
deriving DecidableEq, Repr

/-- The wording of a refusal. -/
def Refusal.message : Refusal → String
  | .unranked glyph => s!"{glyph} is not in list"
  | .notACodePoint => "chr() arg not in range(0x110000)"
  | .tooWide => "Python int too large to convert to C int"

/-- The rank of a glyph that must be held. -/
def rank (palette : Palette) (glyph : Glyph) : Except Refusal Nat :=
  match palette.rank? glyph with
  | some rank => .ok rank
  | none => .error (.unranked glyph)

/-- One glyph quoted; it must be a code point. -/
def quoteGlyph (glyph : Glyph) : Except Refusal String :=
  if glyph < -0x80000000 ∨ 0x80000000 ≤ glyph then .error .tooWide
  else if glyph < 0 ∨ 0x110000 ≤ glyph then .error .notACodePoint
  else .ok (Text.quoteCodes [glyph.toNat])

/-- Glyphs quoted in order, up to the first that cannot be shown. -/
def quoteGlyphs : List Glyph → Except Refusal (List String)
  | [] => .ok []
  | glyph :: rest =>
    match quoteGlyph glyph, quoteGlyphs rest with
    | .error refusal, _ => .error refusal
    | .ok _, .error refusal => .error refusal
    | .ok first, .ok others => .ok (first :: others)

/-- A one-line description with every glyph quoted. -/
def describe (palette : Palette) : Except Refusal String :=
  match quoteGlyphs palette.glyphs with
  | .ok shown => .ok ("PaletteTable(" ++ ", ".intercalate shown ++ ")")
  | .error refusal => .error refusal

end Palette

end SpriteText
