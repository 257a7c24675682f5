/-
# A line of live input, typed or written out

A place of live input keeps the voice and style in force there, and a line that is typed when
the prompt is delivered becomes a segment made from those alone (`Context.prompt`).  The same
line written behind the place as a text goes the long way: the draft has ended its segment,
opened scopes, says the line and closes everything again.

| | the line typed | the line written out |
| --- | --- | --- |
| volume | that of the place | that of the draft, a scheduled one brought about before |
| scopes opened | of the settings that the place keeps | of the settings in force |
| structure around it | none is kept | none is left, the place has ended it |
| scopes closed | by the prompt | by the end of the list |

Both ways give the same segment, whatever came before (`buildSegments_live_line`).  What is
open behind the place when the line comes is nothing but the settings in force
(`finish_listen_say`), and a scheduled volume that begins a segment of its own adds none to the
prompt, because nothing is said in it (`finish_applySchedule`).
-/

import Recital.Proofs.Draft.Change
import Recital.Proofs.Reading.Lookback

namespace Recital
namespace Draft

variable {d : Draft}

/-- A segment without a text leaves nothing behind. -/
theorem segments_endSegment_of_markup (silent : ∀ e ∈ d.events, e.IsMarkup) :
    d.endSegment.segments = d.segments := by
  have closed : ∀ e ∈ d.closeAll.events, e.IsMarkup :=
    List.forall_mem_append.2 ⟨Event.markup_map_closing d.scopes.reverse, silent⟩
  have mute : ¬ Segment.hasText { events := d.closeAll.events.reverse, volume := d.volume } :=
    Event.not_hasText_iff.2 fun e mem => closed e (List.mem_reverse.1 mem)
  exact if_neg mute

theorem finish_changeVolume (d : Draft) (volume : Int) :
    (d.changeVolume volume).finish = d.finish := by
  rw [changeVolume]
  split
  · rfl
  · -- The segment that begins at the new volume has openings only, and so is dropped.
    have begun : ∀ e ∈ { d.endSegment with volume := volume }.openSettings.events, e.IsMarkup :=
      List.forall_mem_append.2 ⟨Event.markup_map_opening _, List.forall_mem_nil _⟩
    rw [finish, segments_endSegment_of_markup begun]
    rfl

/-- **A scheduled volume adds no segment** when it is brought about. -/
theorem finish_applySchedule (d : Draft) : d.applySchedule.finish = d.finish := by
  rw [applySchedule]
  split
  · rfl
  · exact finish_changeVolume _ _

/-- **A line behind a place of live input** is said in a segment that begins with the settings
in force and ends with them. -/
theorem finish_listen_say (d : Draft) (line : Words) :
    (d.listen.say line).finish =
      d.finish ++ [{ volume := d.volume, interactive := some ⟨d.voice, d.style⟩ },
        Context.prompt ⟨d.voice, d.style⟩ line d.volume] := by
  have said : (d.listen.say line).endSegment.segments =
      Context.prompt ⟨d.voice, d.style⟩ line d.volume ::
        { volume := d.volume, interactive := some ⟨d.voice, d.style⟩ } ::
        d.endSegment.segments := by
    rw [endSegment]
    refine if_pos ?_
    simp [Segment.hasText, closeAll, say, Event.words?]
  rw [finish, said, List.reverse_cons, List.reverse_cons, List.append_assoc]
  rfl

/-- Both instructions succeed, and no volume is scheduled behind the place. -/
theorem applyAll_live_line (d : Draft) (line : Words) :
    d.applyAll [.interactive, .text line] = .ok (d.applySchedule.listen.say line) := by
  have idle : d.applySchedule.listen.scheduled = none := applySchedule_scheduled d
  change Except.ok (d.applySchedule.listen.applySchedule.say line) = _
  rw [applySchedule_of_idle idle]

/-- With the scheduled volume brought about, a draft has the settings in force that looking back
finds. -/
theorem settings_applySchedule {chooser : Chooser} {xs : List Instruction}
    (run : applyAll { chooser := chooser } xs = .ok d) :
    d.applySchedule.voice = voiceAfter xs.reverse ∧
      d.applySchedule.style = styleAfter xs.reverse ∧
      d.applySchedule.volume = volumeAfter xs.reverse := by
  obtain ⟨r, read, follows⟩ := exists_follows run
  obtain ⟨later, -⟩ := follows.applySchedule
  have recalls : r.Recalls xs.reverse := by
    simpa using (Reader.recalls_fresh chooser).run read
  have volume := later.volume_idle (applySchedule_scheduled d)
  exact ⟨later.voice.trans recalls.voice, later.style.trans recalls.style,
    volume.trans recalls.volume⟩

end Draft

/-- **A line written behind a place of live input is the prompt of that line.**  Whatever list
of instructions comes before, building goes as without the two, fails where that fails, and
otherwise adds two segments: the place, with the settings that were named last since the last
reset, and the prompt that the place would make of the line if it were typed. -/
theorem buildSegments_live_line (chooser : Chooser) (xs : List Instruction) (line : Words) :
    let context : Context := ⟨voiceAfter xs.reverse, styleAfter xs.reverse⟩
    let place : Segment := { volume := volumeAfter xs.reverse, interactive := some context }
    buildSegments chooser (xs ++ [.interactive, .text line]) =
      (buildSegments chooser xs).map fun before =>
        before ++ [place, context.prompt line place.volume] := by
  intro context place
  rw [buildSegments, buildSegments, Draft.applyAll_append]
  cases run : Draft.applyAll { chooser := chooser } xs with
  | error error => rfl
  | ok d =>
    obtain ⟨voice, style, volume⟩ := Draft.settings_applySchedule run
    have finished : (d.applySchedule.listen.say line).finish =
        d.finish ++ [place, context.prompt line place.volume] := by
      rw [Draft.finish_listen_say, Draft.finish_applySchedule, voice, style, volume]
    change Except.map Draft.finish (d.applyAll [.interactive, .text line]) = _
    rw [Draft.applyAll_live_line]
    exact congrArg Except.ok finished

example :
    buildSegments (.scripted [] 0) [.turn .outputVolume 50, .voice (some ⟨"v", ""⟩),
        .beginSentence, .turn .rate 0, .text [.ofChar 'a'], .interactive, .text [.ofChar 'b']] =
      .ok [
        { events := [.opening (.voice (some ⟨"v", ""⟩)), .opening .sentence,
            .opening (.style {}), .text [.ofChar 'a'], .closing (.style {}), .closing .sentence,
            .closing (.voice (some ⟨"v", ""⟩))]
          volume := 50 },
        { volume := 50, interactive := some ⟨some ⟨"v", ""⟩, {}⟩ },
        Context.prompt ⟨some ⟨"v", ""⟩, {}⟩ [.ofChar 'b'] 50] :=
  rfl

end Recital
