import NodeAtlas.Jobs.Worker
import NodeAtlas.UTF8

/-! What a worker stores about a failure. The message is cut after 1024 bytes,
wherever the runes of it end. -/

set_option autoImplicit false

namespace NodeAtlas.Jobs

/-- The message of an error for the outside, before it is trimmed and cut. -/
def safeMessage (failure : GoError) : GoString :=
  match failure.asProvider with
  | some error => error.message
  | none => failure.message

/-- A stored message is text: a utf8mb4 column takes it, and a backup writes it
and reads it back as it is. -/
structure StaysText (failure : GoError) : Prop where
  valid : UTF8.valid (safeErrorMessage failure) = true
  front : safeErrorMessage failure <+: trimSpace (safeMessage failure)
  short : (safeErrorMessage failure).length ≤ 1024
  restored : UTF8.repair (safeErrorMessage failure) = safeErrorMessage failure

/-- No rune lies across the place where the message is cut. -/
def CutBetween (message : GoString) : Prop := ∀ c ∈ message[1024]?, UTF8.continuation c = false

private theorem safeErrorMessage_cut (failure : GoError) :
    safeErrorMessage failure = (trimSpace (safeMessage failure)).take 1024 := rfl

private theorem cut_valid {message : GoString} (written : UTF8.valid message = true) :
    UTF8.valid (message.take 1024) = true ↔ CutBetween message := by
  have runes : UTF8.Runes (message.take 1024 ++ message.drop 1024) := by
    rw [List.take_append_drop]
    exact (UTF8.valid_iff message).mp written
  rw [UTF8.valid_iff, UTF8.runes_cut runes, CutBetween, List.head?_drop]

theorem messages_stay_text (failure : GoError) (written : UTF8.valid (safeMessage failure) = true) :
    StaysText failure ↔ CutBetween (trimSpace (safeMessage failure)) := by
  have cut := cut_valid (UTF8.trimSpace_valid written)
  rw [← safeErrorMessage_cut] at cut
  constructor
  · intro stays
    exact cut.mp stays.valid
  · intro between
    have valid := cut.mpr between
    refine ⟨valid, ?_, ?_, (UTF8.repair_iff _).mpr valid⟩
    · rw [safeErrorMessage_cut]
      exact List.take_prefix _ _
    · rw [safeErrorMessage_cut]
      exact List.length_take_le _ _

/-- A provider's message within an error that is not. Its `é` ends with the last
byte that is kept. -/
def wrappedTimeout : GoError :=
  .wrapped [0xFF] (.provider ⟨.network, List.replicate 1022 (byte 'a') ++ text "é dépassé ", true⟩)

theorem messages_stay_text_wrapped :
    StaysText wrappedTimeout ∧
      safeErrorMessage wrappedTimeout = List.replicate 1022 (byte 'a') ++ text "é" := by
  refine ⟨?_, by decide +kernel⟩
  apply (messages_stay_text wrappedTimeout (by decide +kernel)).mpr
  have blank : (trimSpace (safeMessage wrappedTimeout))[1024]? = some (byte ' ') := by decide +kernel
  intro c member
  rw [blank] at member
  cases member
  decide

/-- The 1024th byte is the first of the two of `é`. -/
def longFailure : GoError := .plain (List.replicate 1023 (byte 'a') ++ text "é")

theorem long_message_torn :
    ¬∀ failure, UTF8.valid (safeMessage failure) = true → StaysText failure := by
  intro every
  have stays := every longFailure (by decide +kernel)
  have torn : UTF8.valid (safeErrorMessage longFailure) = false := by decide +kernel
  rw [stays.valid] at torn
  cases torn

end NodeAtlas.Jobs
