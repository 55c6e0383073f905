import EpaperClock.Eink

/-! The ways of pushing a frame send the same. -/
namespace EpaperClock

theorem mapM_data_image (image : Image) :
    (List.range (epdWidth * epdHeight / 8)).mapM (fun i => (image.bytes[i]?).map einkSendData) =
      some (image.bytes.map einkSendData) := by
  have read := mapM_map_range einkSendData image.bytes
  rwa [image.size, ← frameBytes_eq] at read

theorem einkDisplayFrameFromBufferBlocking_eq (black red : Image) :
    einkDisplayFrameFromBufferBlocking (some black) (some red) =
      some (frameOps black red ++ [einkWaitUntilIdle]) := by
  simp only [einkDisplayFrameFromBufferBlocking, mapM_data_image, Option.bind_eq_bind,
    Option.bind_some, frameOps, sendResolution, List.cons_append, List.nil_append, List.append_assoc]

/-- A blank frame is what `einkClearFrame` streams, with the refresh behind it. -/
theorem frameOps_blankImage : frameOps blankImage blankImage ++ [einkWaitUntilIdle] =
    einkClearFrame ++ einkDisplayFrameFromSRAMBlocking := by
  simp only [frameOps, blankImage, List.map_replicate, einkClearFrame, frameBytes_eq,
    einkDisplayFrameFromSRAMBlocking, List.append_assoc, List.cons_append, List.nil_append]

/-- An idle panel is sent the same by both functions, up to the wait at the end of one; a busy
one is sent nothing. Cleared buffers are sent as the panel's own memory is when it is cleared,
whatever they held. -/
theorem framePushes_agree (black red : Image) :
    (∃ ops, einkDisplayFrameFromBufferNonBlocking false (some black) (some red) = some (0, ops) ∧
      einkDisplayFrameFromBufferBlocking (some black) (some red) = some (ops ++ [einkWaitUntilIdle])) ∧
    einkDisplayFrameFromBufferNonBlocking true (some black) (some red) = some (1, []) ∧
    ∃ black' red' ops, paintClear black uncoloured = some black' ∧
      paintClear red uncoloured = some red' ∧
      einkDisplayFrameFromBufferBlocking (some black') (some red') = some ops ∧
      transcript ops = transcript (einkClearFrame ++ einkDisplayFrameFromSRAMBlocking) := by
  refine ⟨⟨_, einkDisplayFrameFromBufferNonBlocking_idle black red,
    einkDisplayFrameFromBufferBlocking_eq black red⟩,
    einkDisplayFrameFromBufferNonBlocking_busy _ _, ?_⟩
  refine ⟨blankImage, blankImage, _, paintClear_uncoloured black, paintClear_uncoloured red,
    einkDisplayFrameFromBufferBlocking_eq blankImage blankImage, ?_⟩
  rw [frameOps_blankImage]

end EpaperClock
