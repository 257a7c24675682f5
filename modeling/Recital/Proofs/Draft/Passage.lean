/-
# What is heard of segments

Segments are compared by what they make heard, not by their events: one utterance for each
text and one for each place where live input is read, in order.  An utterance has what a
speech engine is told:

| | of a text | of live input |
| --- | --- | --- |
| words | the text | none, they are not known yet |
| volume | that of the segment | that of the segment |
| voice | of the voice scope around it, or none | of the context |
| style | of the style scope around it, or plain | of the context |

A passage is an utterance with the sentences and paragraphs around it, outermost first.
Markup has no passages, so those of a draft change only where something is said
(`passages_say`, `passages_listen`), and ending a segment keeps them (`passages_finish`).
-/

import Recital.Proofs.Draft.Sound

namespace Recital

/-- What is heard at one place of a prompt. -/
structure Utterance where
  words : Option Words
  volume : Int
  voice : Option Voice
  style : Style
  deriving DecidableEq

/-- An utterance and the kinds of the structural scopes around it, outermost first. -/
structure Passage extends Utterance where
  nesting : List Kind
  deriving DecidableEq

namespace Scope

/-- What a voice scope sets. -/
def voice? : Scope → Option (Option Voice)
  | .voice v => some v
  | _ => none

/-- What a style scope sets. -/
def style? : Scope → Option Style
  | .style s => some s
  | _ => none

/-- The voice of the innermost voice scope. -/
def voiceOf (scopes : List Scope) : Option Voice := (scopes.findSome? voice?).join

/-- The style of the innermost style scope. -/
def styleOf (scopes : List Scope) : Style := (scopes.findSome? style?).getD {}

/-- A setting is found among the scopes of its kind. -/
theorem findSome?_ofKind {α : Type} {kind : Kind} {get : Scope → Option α}
    (other : ∀ s, s.kind ≠ kind → get s = none) (scopes : List Scope) :
    (ofKind kind scopes).findSome? get = scopes.findSome? get := by
  induction scopes with
  | nil => rfl
  | cons s scopes ih =>
    by_cases same : s.kind = kind
    · rw [ofKind, List.filter_cons_of_pos (by simpa using same), List.findSome?_cons,
        List.findSome?_cons]
      cases get s with
      | none => exact ih
      | some found => rfl
    · rw [ofKind, List.filter_cons_of_neg (by simpa using same), List.findSome?_cons,
        other s same]
      exact ih

theorem voiceOf_eq {scopes : List Scope} {voice : Option Voice}
    (h : ofKind .voice scopes = ofVoice voice) : voiceOf scopes = voice := by
  have other : ∀ s : Scope, s.kind ≠ .voice → s.voice? = none := by
    rintro (v | s | _ | _) ne
    · exact absurd rfl ne
    all_goals rfl
  rw [voiceOf, ← findSome?_ofKind other, h]
  cases voice <;> rfl

theorem styleOf_eq {scopes : List Scope} {style : Style}
    (h : ofKind .style scopes = [.style style] ∨ ofKind .style scopes = [] ∧ style = {}) :
    styleOf scopes = style := by
  have other : ∀ s : Scope, s.kind ≠ .style → s.style? = none := by
    rintro (v | s | _ | _) ne
    · rfl
    · exact absurd rfl ne
    all_goals rfl
  rw [styleOf, ← findSome?_ofKind other]
  rcases h with h | ⟨h, rfl⟩ <;> rw [h] <;> rfl

end Scope

/-- The passage of a text at a volume with scopes around it, innermost first. -/
def Passage.ofText (volume : Int) (text : Words × List Scope) : Passage where
  words := some text.1
  volume := volume
  voice := Scope.voiceOf text.2
  style := Scope.styleOf text.2
  nesting := (Scope.nesting text.2).reverse

/-- The passage of live input at a volume. -/
def Passage.ofContext (volume : Int) (context : Context) : Passage where
  words := none
  volume := volume
  voice := context.voice
  style := context.style
  nesting := []

namespace Segment

/-- The passages of a segment: one for each text and one for its live input. -/
def passages (s : Segment) : List Passage :=
  (Event.textsUnder [] s.events).map (Passage.ofText s.volume) ++
    s.interactive.toList.map (Passage.ofContext s.volume)

/-- The utterances of a segment. -/
def utterances (s : Segment) : List Utterance := s.passages.map Passage.toUtterance

theorem flatMap_utterances (segments : List Segment) :
    segments.flatMap utterances = (segments.flatMap passages).map Passage.toUtterance :=
  List.map_flatMap.symm

end Segment

namespace Draft

/-- The passages of a draft so far, with the texts at hand at the volume of now. -/
def passages (d : Draft) : List Passage :=
  d.segments.reverse.flatMap Segment.passages ++
    (Event.textsUnder [] d.events.reverse).map (Passage.ofText d.volume)

variable {d e : Draft}

theorem passages_of_marked (marked : d.Marked e)
    (traced : Event.replay [] d.events.reverse = some d.scopes) : e.passages = d.passages := by
  obtain ⟨es, silent, events, _⟩ := marked.markup
  rw [passages, events, List.reverse_append, List.reverse_reverse, Event.textsUnder_append traced,
    Event.textsUnder_of_markup silent, List.append_nil, marked.segments, marked.volume, passages]

theorem passages_say (traced : Event.replay [] d.events.reverse = some d.scopes) (words : Words) :
    (d.say words).passages = d.passages ++ [Passage.ofText d.volume (words, d.scopes)] := by
  rw [passages, say, List.reverse_cons, Event.textsUnder_append traced, List.map_append,
    ← List.append_assoc]
  rfl

/-- **Ending a segment loses nothing:** what is dropped says nothing. -/
theorem passages_endSegment (traced : Event.replay [] d.events.reverse = some d.scopes) :
    d.endSegment.segments.reverse.flatMap Segment.passages = d.passages := by
  rw [← passages_of_marked (marked_closeAll d) traced, endSegment]
  dsimp only
  split
  · rw [List.reverse_cons, List.flatMap_append, List.flatMap_singleton, Segment.passages,
      Option.toList_none, List.map_nil, List.append_nil]
    rfl
  · rename_i mute
    have silent : ∀ e ∈ d.closeAll.events.reverse, e.IsMarkup := Event.not_hasText_iff.1 mute
    rw [passages, Event.textsUnder_of_markup silent, List.map_nil, List.append_nil]

theorem passages_finish (h : d.Sound) : d.finish.flatMap Segment.passages = d.passages :=
  passages_endSegment h.traced

/-- A new segment starts with nothing said. -/
theorem passages_openSettings (scopes : d.scopes = []) (events : d.events = []) :
    d.openSettings.passages = d.segments.reverse.flatMap Segment.passages := by
  rw [passages_of_marked (marked_openSettings scopes) (by rw [events, scopes]; rfl), passages,
    events]
  exact List.append_nil _

theorem passages_changeVolume (h : d.Sound) (volume : Int) :
    (d.changeVolume volume).passages = d.passages := by
  rw [changeVolume]
  split
  · rfl
  · rw [passages_openSettings rfl rfl]
    exact passages_endSegment h.traced

theorem passages_applySchedule (h : d.Sound) : d.applySchedule.passages = d.passages := by
  rw [applySchedule]
  split
  · rfl
  · exact passages_changeVolume h.unscheduled _

theorem passages_listen (h : d.Sound) :
    d.listen.passages = d.passages ++ [Passage.ofContext d.volume ⟨d.voice, d.style⟩] := by
  rw [listen, passages_openSettings rfl rfl, List.reverse_cons, List.flatMap_append,
    List.flatMap_singleton]
  exact congrArg (· ++ _) (passages_endSegment h.traced)

end Draft
end Recital
