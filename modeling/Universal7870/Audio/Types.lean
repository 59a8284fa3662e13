import Mathlib.Logic.Basic

/-!
# Audio HAL types

The enumerations of `audio_hw.h` and the platform's device masks as far as the HAL compares them.
-/

namespace Universal7870.Audio

/-- `audio_usecase_t`. -/
inductive UsecaseId
  | invalid
  | audioPlayback
  | audioPlaybackMultiCh
  | audioPlaybackOffload
  | audioPlaybackDeepBuffer
  | audioCapture
  | voiceCall
  deriving DecidableEq, Repr

inductive OffloadState
  | idle
  | playing
  | paused
  | pausedFlushed
  deriving DecidableEq, Repr

/-- `audio_source_t`, by the sources the HAL tells apart. -/
inductive AudioSource
  | default
  | mic
  | camcorder
  | voiceRecognition
  | voiceCommunication
  | other (value : Nat)
  deriving DecidableEq, Repr

/-- The sources whose microphone depends on the output device. -/
def AudioSource.followsOutput (source : AudioSource) : Bool :=
  source = .voiceCommunication ∨ source = .mic

end Universal7870.Audio
