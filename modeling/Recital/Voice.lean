/-
# Voices and styles

A voice is known to the speech engine by its id and to people by its name.  A
style is the rate, the emphasis and the volume that text is spoken with; each is a
level, and level 0 of any of them means that it is not set.
-/

namespace Recital

/-- A voice of the speech engine. -/
structure Voice where
  id : String
  name : String := ""
  deriving DecidableEq

/-- How text is spoken.  Level 0 means "not set". -/
structure Style where
  rate : Int := 0
  emphasis : Int := 0
  volume : Int := 0
  deriving DecidableEq

/-- Whether no level of a style is set. -/
def Style.isPlain (s : Style) : Bool := s.rate == 0 && s.emphasis == 0 && s.volume == 0

theorem Style.isPlain_iff (s : Style) : s.isPlain = true ↔ s = {} := by
  cases s
  simp [Style.isPlain, and_assoc]

end Recital
