import Hotki.App.Hud
import Hotki.Proofs.Keycode.Chord

/-! Pressed rows of the HUD: shown for as long as they should be, and repainted when they change. -/

namespace Hotki

open Base

namespace App

variable {Displays : Type} {hud : Hud Displays} {chord : Chord}

/-- What a key-state event makes of the gesture of its chord. -/
def HudPressGesture.follow (pressed : Bool) (now : Nat) :
    Option HudPressGesture → Option HudPressGesture
  | none => if pressed then some ⟨now, true⟩ else none
  | some gesture =>
    if !pressed then some { gesture with held := false }
    else if !gesture.held then some ⟨now, true⟩ else some gesture

namespace HudPressState

end HudPressState

/-- The gesture that a HUD holds of a chord. -/
def Hud.gesture (hud : Hud Displays) (chord : Chord) : Option HudPressGesture :=
  hud.presses.gestures.lookup chord.display

/-- Whether a chord is painted pressed at a time. -/
def Hud.isPressed (hud : Hud Displays) (chord : Chord) (now : Nat) : Bool :=
  hud.presses.isActive chord now hud.minimum

namespace HudEvent

/-- An event keeps a row of a chord in the full HUD. -/
def Keeps (chord : Chord) : HudEvent Displays → Prop
  | .setStyle cfg => cfg.mode = .hud
  | .setState rows visible _ => visible = true ∧ ∃ row ∈ rows, row.stay = true ∧ row.chord = chord
  | .clearKeyState | .hide => False
  | .setKeyState _ _ _ | .setDisplayMetrics _ | .render _ => True

/-- An event is the key-up of a chord. -/
def Releases (chord : Chord) (event : HudEvent Displays) : Prop :=
  ∃ now, event = .setKeyState chord false now

end HudEvent

namespace Hud

/-- A frame keeps everything but the gestures that are over. -/
theorem render_fst (hud : Hud Displays) (now : Nat) :
    (hud.render now).1 = hud ∨
      (hud.render now).1 = { hud with presses := hud.presses.expire now hud.minimum } := by
  unfold render
  split
  · exact .inl rfl
  · exact .inr rfl

/-- Every gesture is that of a chord. -/
def Keyed (hud : Hud Displays) : Prop :=
  ∀ key ∈ hud.presses.gestures, ∃ chord : Chord, chord.display = key

/-- Retained gestures are gestures of chords still. -/
theorem keyed_retain {keep : String → HudPressGesture → Bool} (keyed : hud.Keyed) (key : String)
    (member : key ∈ hud.presses.gestures.retain keep) : ∃ chord : Chord, chord.display = key := by
  apply keyed key
  rw [← AList.lookup_isSome, HashMap.lookup_retain] at member
  rw [← AList.lookup_isSome]
  cases found : hud.presses.gestures.lookup key with
  | none =>
    rw [found] at member
    cases member
  | some gesture => rfl

/-- No operation records a gesture but that of a chord. -/
theorem Keyed.perform (keyed : hud.Keyed) (event : HudEvent Displays) :
    (hud.perform event).Keyed := by
  -- Texts enter the record only as those of chords.
  have empty : ∀ key ∈ (∅ : HashMap String HudPressGesture), ∃ chord : Chord, chord.display = key :=
    fun key member => absurd member (AList.notMem_empty key)
  cases event with
  | setStyle cfg =>
    show (hud.setStyle cfg).Keyed
    unfold setStyle
    split
    · exact keyed
    · unfold Keyed
      dsimp only
      split
      · exact empty
      · exact keyed
  | clearKeyState | hide => exact empty
  -- A reconciliation keeps some of the gestures, or drops all.
  | setState rows visible breadcrumbs =>
    show ∀ key ∈ (hud.presses.reconcile rows visible hud.cfg.mode).gestures, _
    unfold HudPressState.reconcile
    split
    · exact empty
    · exact keyed_retain keyed
  | setDisplayMetrics display => exact keyed
  | render now =>
    rcases hud.render_fst now with same | same
    · show (hud.render now).1.Keyed
      rw [same]
      exact keyed
    · show (hud.render now).1.Keyed
      rw [same]
      exact keyed_retain keyed
  -- Only a key-down adds an entry, under the text of its own chord.
  | setKeyState other pressed now =>
    have inserted (gesture : HudPressGesture) : ∀ key ∈ hud.presses.gestures.insert other.display
        gesture, ∃ chord : Chord, chord.display = key := by
      intro key member
      rcases (AList.mem_insert _).mp member with rfl | known
      · exact ⟨other, rfl⟩
      · exact keyed key known
    show ∀ key ∈ (hud.presses.apply other pressed now).gestures, _
    unfold HudPressState.apply
    dsimp only
    split
    · exact inserted _
    · split
      · exact inserted _
      · exact keyed
    · exact inserted _
    · exact keyed

end Hud

end App

end Hotki
