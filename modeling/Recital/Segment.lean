/-
# Prompt segments

A segment is what one speech engine says at one volume: either a sequence of
markup events, in which scopes are opened and closed around texts, or a place where
live input is read, with the voice and style in force there.
-/

import Recital.Voice
import Recital.Words

namespace Recital

/-- The kinds of scope. -/
inductive Kind where
  | voice
  | style
  | sentence
  | paragraph
  deriving DecidableEq

/-- The name of a kind. -/
def Kind.name : Kind → String
  | .voice => "voice"
  | .style => "style"
  | .sentence => "sentence"
  | .paragraph => "paragraph"

/-- A scope of the markup, with what it sets.  A voice scope may set no voice, which
leaves the choice to whoever speaks the text. -/
inductive Scope where
  | voice (voice : Option Voice)
  | style (style : Style)
  | sentence
  | paragraph
  deriving DecidableEq

/-- The kind of a scope. -/
def Scope.kind : Scope → Kind
  | .voice _ => .voice
  | .style _ => .style
  | .sentence => .sentence
  | .paragraph => .paragraph

/-- Whether scopes of a kind carry a setting rather than structure. -/
def Kind.isAmbient : Kind → Bool
  | .voice | .style => true
  | .sentence | .paragraph => false

/-- A markup event. -/
inductive Event where
  | opening (scope : Scope)
  | text (words : Words)
  | closing (scope : Scope)
  deriving DecidableEq

/-- The words of a text event. -/
def Event.words? : Event → Option Words
  | .text words => some words
  | _ => none

/-- The voice and style that live input is spoken with. -/
structure Context where
  voice : Option Voice := none
  style : Style := {}
  deriving DecidableEq

/-- The volume of a segment that nobody has turned down. -/
def fullVolume : Int := 100

/-- A prompt segment.  One with a context reads live input and has no events. -/
structure Segment where
  events : List Event := []
  volume : Int := fullVolume
  interactive : Option Context := none
  deriving DecidableEq

namespace Segment

/-- The texts of a segment. -/
def texts (s : Segment) : List Words := s.events.filterMap Event.words?

/-- Whether a segment has anything to say. -/
def hasText (s : Segment) : Bool := s.events.any fun e => e.words?.isSome

/-- The words of a segment without its markup. -/
def text (s : Segment) : Words := List.intercalate " " s.texts

end Segment
end Recital
