import TileLevel.Placement

/-!
# Colours

Colours of the board preview, and the style of a screen cell: a colour for the character and one for
what is behind it, either of which may be left to the terminal. What a colour is, is left open.
-/

namespace TileLevel

/-- The colours of a character and of what is behind it; `none` leaves a colour to what is below. -/
structure Style (Colour : Type) where
  foreground : Option Colour := none
  background : Option Colour := none
deriving DecidableEq, Repr

/-- A style on top of another: what it leaves open shows the one below. -/
def Style.over {Colour : Type} (style below : Style Colour) : Style Colour where
  foreground := style.foreground <|> below.foreground
  background := style.background <|> below.background

structure Theme (Colour : Type) where
  background : Colour
  text : Colour
  dimmed : Colour
  floor : Colour
  obstacle : Colour
  checkpoint : Colour
  spawn : Colour
deriving DecidableEq, Repr

structure Rgb where
  red : UInt8
  green : UInt8
  blue : UInt8
deriving DecidableEq, Repr

namespace Theme

/-- Light on dark blue. -/
def midnight : Theme Rgb where
  background := ⟨0x1A, 0x1B, 0x26⟩
  text := ⟨0xA9, 0xB1, 0xD6⟩
  dimmed := ⟨0x64, 0x6E, 0x96⟩
  floor := ⟨0x9E, 0xCE, 0x6A⟩
  obstacle := ⟨0x56, 0x5F, 0x89⟩
  checkpoint := ⟨0xE0, 0xAF, 0x68⟩
  spawn := ⟨0xF7, 0x76, 0x8E⟩

variable {Colour : Type}

def kindColour (theme : Theme Colour) : Kind → Colour
  | .floorValid => theme.floor
  | .floorObstacle => theme.obstacle
  | .floorCheckpoint => theme.checkpoint
  | .playerSpawn => theme.spawn

/-- What lies below a picture: the background of the theme. -/
def backdrop (theme : Theme Colour) : Style Colour where
  background := some theme.background

/-- A colour on the background of the theme. -/
def onBackdrop (theme : Theme Colour) (colour : Colour) : Style Colour :=
  { theme.backdrop with foreground := some colour }

end Theme

end TileLevel
